import PromptCanvas.Json.Reader

set_option autoImplicit false

/-! # The grammar of JSON

Which documents write which values, said without a reader. `Writes` derives a value, the items of a list or the
fields of an object from the symbols that write them, within the limits of a dialect; `depth` is the number of
containers that may still be entered, where empty ones are not counted. A document is a value with white space
around it.

The number after an escape is that of a unit. Two escapes that make up a pair are one character, so that the
first half of a pair stands by itself only where no second half follows. -/

namespace PromptCanvas.Json

open Text

/-- White space. -/
def IsSpace (doc : List Symbol) : Prop := ∀ symbol ∈ doc, isSkipped symbol = true

/-! ## Texts -/

/-- Four hexadecimal digits write a unit. -/
inductive WritesUnit : Nat → List Symbol → Prop
  | digits {a b c d : Char} {p q r s : Nat} (ha : hexValue? a = some p) (hb : hexValue? b = some q)
      (hc : hexValue? c = some r) (hd : hexValue? d = some s) :
      WritesUnit (((p * 16 + q) * 16 + r) * 16 + s) [.char a, .char b, .char c, .char d]

/-- The escape of a unit. -/
def escape (digits : List Symbol) : List Symbol := .char '\\' :: .char 'u' :: digits

/-- The symbols of a text, as they stand between its quotes. -/
inductive WritesText : List Symbol → List Symbol → Prop
  | nil : WritesText [] []
  | plain {c : Char} {text doc : List Symbol} (hquote : c ≠ '"') (hslash : c ≠ '\\') (hcontrol : 0x20 ≤ c.toNat)
      (h : WritesText text doc) : WritesText (.char c :: text) (.char c :: doc)
  | half {unit : Nat} {text doc : List Symbol} (h : WritesText text doc) :
      WritesText (.half unit :: text) (.half unit :: doc)
  | letter {letter c : Char} {text doc : List Symbol} (hletter : escapedChar? letter = some c)
      (h : WritesText text doc) : WritesText (.char c :: text) (.char '\\' :: .char letter :: doc)
  | unit {unit : Nat} {digits text doc : List Symbol} (hunit : WritesUnit unit digits)
      (hfirst : isFirstHalf unit = false) (h : WritesText text doc) :
      WritesText (.ofPoint unit :: text) (escape digits ++ doc)
  | pair {first second : Nat} {digits digits' text doc : List Symbol} (hunit : WritesUnit first digits)
      (hfirst : isFirstHalf first = true) (hunit' : WritesUnit second digits')
      (hsecond : isSecondHalf second = true) (h : WritesText text doc) :
      WritesText (.ofPair first second :: text) (escape digits ++ (escape digits' ++ doc))
  | alone {first : Nat} {digits text doc : List Symbol} (hunit : WritesUnit first digits)
      (hfirst : isFirstHalf first = true)
      (halone : ∀ second digits' more, WritesUnit second digits' → doc = escape digits' ++ more →
        isSecondHalf second = false)
      (h : WritesText text doc) : WritesText (.half first :: text) (escape digits ++ doc)

/-- Whether a text may hold the halves that it holds. -/
def Dialect.Allows (dialect : Dialect) (text : List Symbol) : Prop :=
  dialect.allowsHalves = true ∨ ∀ symbol ∈ text, symbol.isHalf = false

/-- A text with its quotes. -/
inductive WritesQuoted (dialect : Dialect) : List Symbol → List Symbol → Prop
  | intro {text doc : List Symbol} (h : WritesText text doc) (hallowed : dialect.Allows text) :
      WritesQuoted dialect text (.char '"' :: (doc ++ [.char '"']))

/-! ## Numbers -/

/-- One decimal digit or more. -/
def AreDigits (digits : List Char) : Prop := digits ≠ [] ∧ ∀ c ∈ digits, isDigit c = true

/-- A zero, or digits that no zero leads. -/
def IsWhole (digits : List Char) : Prop :=
  digits = ['0'] ∨ AreDigits digits ∧ digits.head? ≠ some '0'

/-- A point and the digits of a fraction, or nothing. -/
inductive WritesFraction : List Char → List Char → Prop
  | none : WritesFraction [] []
  | some {digits : List Char} (h : AreDigits digits) : WritesFraction digits ('.' :: digits)

/-- A letter and the digits of an exponent, with or without a sign, or nothing. -/
inductive WritesPower : Option Int → List Char → Prop
  | none : WritesPower none []
  | plain {letter : Char} {digits : List Char} (hletter : letter = 'e' ∨ letter = 'E') (h : AreDigits digits) :
      WritesPower (some (decimalValue digits)) (letter :: digits)
  | plus {letter : Char} {digits : List Char} (hletter : letter = 'e' ∨ letter = 'E') (h : AreDigits digits) :
      WritesPower (some (decimalValue digits)) (letter :: '+' :: digits)
  | minus {letter : Char} {digits : List Char} (hletter : letter = 'e' ∨ letter = 'E') (h : AreDigits digits) :
      WritesPower (some (-decimalValue digits)) (letter :: '-' :: digits)

/-- A number without its sign. The limit on digits holds for whole numbers, and in some dialects for the digits
    before a point or exponent as well. -/
inductive WritesUnsigned (dialect : Dialect) (negative : Bool) : Json → List Char → Prop
  | int {digits : List Char} (hwhole : IsWhole digits) (hlimit : dialect.exceeds digits = false) :
      WritesUnsigned dialect negative
        (.int (if negative then -(decimalValue digits : Int) else decimalValue digits)) digits
  | float {digits fraction decimals exponent : List Char} {power : Option Int} (hwhole : IsWhole digits)
      (hfraction : WritesFraction fraction decimals) (hpower : WritesPower power exponent)
      (hpart : ¬(fraction = [] ∧ power = none))
      (hlimit : dialect.limitsFractions = true → dialect.exceeds digits = false) :
      WritesUnsigned dialect negative
        (.float (.ofDecimal negative (decimalValue (digits ++ fraction)) (power.getD 0 - fraction.length)))
        (digits ++ (decimals ++ exponent))

/-! ## Values -/

/-- A value that holds no other values and is no text. -/
inductive WritesAtom (dialect : Dialect) : Json → List Symbol → Prop
  | word {word : String} {value : Json} (h : (word, value) ∈ words) : WritesAtom dialect value (symbols word.toList)
  | infinite : WritesAtom dialect (.float (.infinite true)) (symbols ('-' :: "Infinity".toList))
  | positive {value : Json} {cs : List Char} (h : WritesUnsigned dialect false value cs) :
      WritesAtom dialect value (symbols cs)
  | negative {value : Json} {cs : List Char} (h : WritesUnsigned dialect true value cs) :
      WritesAtom dialect value (symbols ('-' :: cs))

/-- What a part of a document writes: a value, the items of a list with the bracket that closes it, or the fields
    of an object with the brace that closes it. -/
inductive Phrase where
  | value (value : Json)
  | items (items : List Json)
  | fields (fields : List (Writing × Json))

/-- A part of a document, with the number of containers that may be entered in it. -/
inductive Writes (dialect : Dialect) : (depth : Nat) → Phrase → List Symbol → Prop
  | atom {depth : Nat} {value : Json} {doc : List Symbol} (h : WritesAtom dialect value doc) :
      Writes dialect depth (.value value) doc
  | text {depth : Nat} {text doc : List Symbol} (h : WritesQuoted dialect text doc) :
      Writes dialect depth (.value (.ofSymbols text)) doc
  | emptyList {depth : Nat} {space : List Symbol} (hspace : IsSpace space) :
      Writes dialect depth (.value (.arr [])) (.char '[' :: (space ++ [.char ']']))
  | list {depth : Nat} {items : List Json} {space doc : List Symbol} (hspace : IsSpace space)
      (h : Writes dialect depth (.items items) doc) :
      Writes dialect (depth + 1) (.value (.arr items)) (.char '[' :: (space ++ doc))
  | emptyObject {depth : Nat} {space : List Symbol} (hspace : IsSpace space) :
      Writes dialect depth (.value (.obj [])) (.char '\x7b' :: (space ++ [.char '\x7d']))
  | object {depth : Nat} {fields : List (Writing × Json)} {space doc : List Symbol} (hspace : IsSpace space)
      (h : Writes dialect depth (.fields fields) doc) :
      Writes dialect (depth + 1) (.value (.obj (Table.ofEntries fields))) (.char '\x7b' :: (space ++ doc))
  | lastItem {depth : Nat} {item : Json} {doc space : List Symbol} (hspace : IsSpace space)
      (h : Writes dialect depth (.value item) doc) :
      Writes dialect depth (.items [item]) (doc ++ (space ++ [.char ']']))
  | nextItem {depth : Nat} {item : Json} {items : List Json} {doc space space' rest : List Symbol}
      (hspace : IsSpace space) (hspace' : IsSpace space') (h : Writes dialect depth (.value item) doc)
      (hrest : Writes dialect depth (.items items) rest) :
      Writes dialect depth (.items (item :: items)) (doc ++ (space ++ .char ',' :: (space' ++ rest)))
  | lastField {depth : Nat} {name quoted doc before between after : List Symbol} {value : Json}
      (hname : WritesQuoted dialect name quoted) (hbefore : IsSpace before) (hbetween : IsSpace between)
      (hafter : IsSpace after) (h : Writes dialect depth (.value value) doc) :
      Writes dialect depth (.fields [(.ofSymbols name, value)])
        (quoted ++ (before ++ .char ':' :: (between ++ (doc ++ (after ++ [.char '\x7d'])))))
  | nextField {depth : Nat} {name quoted doc before between after space rest : List Symbol} {value : Json}
      {fields : List (Writing × Json)} (hname : WritesQuoted dialect name quoted) (hbefore : IsSpace before)
      (hbetween : IsSpace between) (hafter : IsSpace after) (hspace : IsSpace space)
      (h : Writes dialect depth (.value value) doc) (hrest : Writes dialect depth (.fields fields) rest) :
      Writes dialect depth (.fields ((.ofSymbols name, value) :: fields))
        (quoted ++ (before ++ .char ':' :: (between ++ (doc ++ (after ++ .char ',' :: (space ++ rest))))))

/-- A document: a value with white space around it. -/
def IsDocument (dialect : Dialect) (value : Json) (doc : List Symbol) : Prop :=
  ∃ before written after, IsSpace before ∧ Writes dialect dialect.maxDepth (.value value) written ∧
    IsSpace after ∧ doc = before ++ (written ++ after)

end PromptCanvas.Json
