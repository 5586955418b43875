set_option autoImplicit false

/-! # Texts that may be torn

Documents may write a character as a pair of 16-bit units, and nothing makes both halves of a pair be
there. A `Symbol` is a character, or half a pair by itself, which stands for no character. A text that
holds a half is torn. -/

namespace PromptCanvas.Text

/-- Whether a unit is the first half of a pair. -/
def isFirstHalf (unit : Nat) : Bool := 0xD800 ≤ unit && unit < 0xDC00

/-- Whether a unit is the second half of a pair. -/
def isSecondHalf (unit : Nat) : Bool := 0xDC00 ≤ unit && unit < 0xE000

/-- A character, or half a pair of units by itself. -/
inductive Symbol where
  | char (c : Char)
  | half (unit : Nat)
deriving DecidableEq, Repr

namespace Symbol

/-- The symbol with a code point. -/
def ofPoint (point : Nat) : Symbol :=
  if isFirstHalf point || isSecondHalf point then half point else char (Char.ofNat point)

/-- The symbol that a pair of units writes. -/
def ofPair (first second : Nat) : Symbol :=
  char (Char.ofNat (0x10000 + (first - 0xD800) * 0x400 + (second - 0xDC00)))

/-- The code point of a symbol. -/
def point : Symbol → Nat
  | char c => c.toNat
  | half unit => unit

/-- The character that a symbol is. -/
def char? : Symbol → Option Char
  | char c => some c
  | half _ => none

/-- Whether a symbol is half a pair. -/
def isHalf : Symbol → Bool
  | char _ => false
  | half _ => true

end Symbol

/-- The symbols of a text. -/
def symbols (cs : List Char) : List Symbol := cs.map .char

/-- The text that symbols make up, if it is not torn. -/
def whole? (symbols : List Symbol) : Option String := (symbols.mapM Symbol.char?).map String.ofList

/-- A symbol in a text that is made whole. A half gives way to three replacement characters, one for each
    of the bytes it would take. -/
def mendedSymbol : Symbol → List Char
  | .char c => [c]
  | .half _ => List.replicate 3 '\ufffd'

/-- The text that symbols make up, made whole where it is torn. -/
def mended (symbols : List Symbol) : String := String.ofList (symbols.flatMap mendedSymbol)

end PromptCanvas.Text

namespace PromptCanvas

open Text

/-- A text that may be torn: the name of a field, or what a service has to say. -/
inductive Writing where
  | whole (s : String)
  | torn (symbols : List Symbol)
deriving DecidableEq, Repr, Inhabited

namespace Writing

instance : Coe String Writing := ⟨whole⟩

/-- The text that symbols make up. -/
def ofSymbols (symbols : List Symbol) : Writing :=
  match whole? symbols with
  | some s => whole s
  | none => torn symbols

/-- The text made whole. -/
def mended : Writing → String
  | whole s => s
  | torn symbols => Text.mended symbols

/-- The symbols of a text. -/
def symbols : Writing → List Symbol
  | whole s => Text.symbols s.toList
  | torn symbols => symbols

/-- The code points of a text. -/
def points : Writing → List Nat
  | whole s => s.toList.map Char.toNat
  | torn symbols => symbols.map Symbol.point

/-- Whether a text is whole. -/
def isWhole : Writing → Bool
  | whole _ => true
  | torn _ => false

/-- Two texts, one after the other. The halves of a pair are not joined. -/
def append : Writing → Writing → Writing
  | whole s, whole t => whole (s ++ t)
  | w, v => torn (w.symbols ++ v.symbols)

instance : Append Writing := ⟨append⟩

end Writing

end PromptCanvas
