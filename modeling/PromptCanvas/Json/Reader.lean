import PromptCanvas.Decimal.Binary64
import PromptCanvas.Decimal.Reading
import PromptCanvas.Json.Basic
import PromptCanvas.Text.Numeral
import PromptCanvas.Text.Search

set_option autoImplicit false

/-! # Reading JSON

`Json.read` reads a text that is one JSON value and nothing else. The grammar is strict: only space,
tab, line feed and carriage return are skipped, control characters may not stand in a text, and no
comma may be left over. Of several fields of one name the last one counts. A number without fraction
and exponent is a whole number; the words `NaN`, `Infinity` and `-Infinity` are numbers too.

A `Dialect` says what is accepted within the grammar: how deep values may be nested, how long numerals
may be, and whether an escape may stand for half a pair of units. A text that breaks the grammar is
malformed; one that passes a limit first, from the left, has a numeral that is too long or a container that
stands too deep. Every nested value consumes a symbol, so the length of the text bounds the work.

A reader of documents enters a call for every container, and so it needs room on the stack. How much there is
depends on the calls that it is itself inside of, and it is therefore given with the dialect.

A document may be torn, and is therefore read from symbols. Only two escapes make up a pair; a half that
stands in a text without an escape stays a half. -/

namespace PromptCanvas.Json

open Text

/-- The room of a reader that is called from the top of a request: of the one thousand calls that may be
    entered, the server and the reader's own calls take the rest. -/
def stackRoom : Nat := 960

/-- What a reader accepts within the grammar. -/
structure Dialect where
  /-- The greatest number of containers around a value. -/
  maxDepth : Nat
  /-- The greatest number of digits of a whole number, if there is a limit. -/
  maxDigits : Option Nat
  /-- Whether the limit on digits holds for those before a point or exponent as well. -/
  limitsFractions : Bool
  /-- Whether an escape may stand for half a pair of units. -/
  allowsHalves : Bool
deriving DecidableEq, Repr

namespace Dialect

/-- The dialect of documents, bodies of requests and what services report, for a reader with some room on the
    stack. -/
def document (room : Nat) : Dialect := ⟨room, some Text.maxDigits, false, true⟩

/-- The dialect of a model's replies. -/
def reply : Dialect := ⟨200, some Text.maxDigits, true, false⟩

/-- The dialect without limits that matter. -/
def unlimited : Dialect := ⟨1000000, none, false, true⟩

/-- Whether a number of digits passes the limit. -/
def exceeds (dialect : Dialect) (digits : List Char) : Bool :=
  match dialect.maxDigits with
  | some most => most < digits.length
  | none => false

end Dialect

/-- A value that holds others. -/
inductive Container where
  | list
  | object
deriving DecidableEq, Repr

/-- Why a text is not read. -/
inductive Refusal where
  | malformed
  /-- A numeral has more digits than the dialect allows. -/
  | tooLong
  /-- There is no room for a container. -/
  | tooDeep (container : Container)
deriving DecidableEq, Repr

/-- What was read at the start of a document, and the symbols after it. -/
abbrev Taken (α : Type) := α × List Symbol

/-- What was read, if anything; a text without it is malformed. -/
def orMalformed {α : Type} : Option (Taken α) → Except Refusal (Taken α)
  | some part => .ok part
  | none => .error .malformed

/-- Whether JSON skips a symbol. -/
def isSkipped : Symbol → Bool
  | .char c => c == ' ' || c == '\t' || c == '\n' || c == '\r'
  | .half _ => false

/-- The rest of a document after the symbols that JSON skips. -/
def skipSpace (doc : List Symbol) : List Symbol := doc.dropWhile isSkipped

/-! ## Texts -/

/-- The 16-bit unit written by four hexadecimal digits. -/
def readUnit? : List Symbol → Option (Taken Nat)
  | .char a :: .char b :: .char c :: .char d :: rest => do
      let a ← hexValue? a
      let b ← hexValue? b
      let c ← hexValue? c
      let d ← hexValue? d
      some (((a * 16 + b) * 16 + c) * 16 + d, rest)
  | _ => none

/-- The second unit of a pair, if its escape follows. -/
def readSecond? : List Symbol → Option (Taken Nat)
  | .char '\\' :: .char 'u' :: more => (readUnit? more).filter fun part => isSecondHalf part.1
  | _ => none

/-- The symbol that an escaped unit stands for: two units of a pair make one character, and half a pair
    stays what it is. -/
def readEscaped? (doc : List Symbol) : Option (Taken Symbol) := do
  let (unit, rest) ← readUnit? doc
  if isFirstHalf unit then
    match readSecond? rest with
    | some (second, rest) => some (.ofPair unit second, rest)
    | none => some (.half unit, rest)
  else some (.ofPoint unit, rest)

/-- The character that an escape of one letter stands for. -/
def escapedChar? (c : Char) : Option Char :=
  if c = '"' ∨ c = '\\' ∨ c = '/' then some c
  else if c = 'b' then some '\x08'
  else if c = 'f' then some '\x0c'
  else if c = 'n' then some '\n'
  else if c = 'r' then some '\r'
  else if c = 't' then some '\t'
  else none

/-- The symbols of a text up to its closing quote. Each of them takes one unit of fuel. -/
def readSymbols : Nat → List Symbol → Option (Taken (List Symbol))
  | 0, _ => none
  | fuel + 1, doc =>
      match doc with
      | [] => none
      | .char '"' :: rest => some ([], rest)
      | .char '\\' :: .char 'u' :: rest => do
          let (symbol, rest) ← readEscaped? rest
          let (more, rest) ← readSymbols fuel rest
          some (symbol :: more, rest)
      | .char '\\' :: .char c :: rest => do
          let c ← escapedChar? c
          let (more, rest) ← readSymbols fuel rest
          some (.char c :: more, rest)
      | .char c :: rest =>
          if c = '\\' ∨ c.toNat < 0x20 then none
          else do
            let (more, rest) ← readSymbols fuel rest
            some (.char c :: more, rest)
      | .half unit :: rest => do
          let (more, rest) ← readSymbols fuel rest
          some (.half unit :: more, rest)

/-- The symbols of a text whose opening quote was read. -/
def readText (dialect : Dialect) (doc : List Symbol) : Except Refusal (Taken (List Symbol)) :=
  orMalformed
    ((readSymbols (doc.length + 1) doc).filter fun part =>
      dialect.allowsHalves || !part.1.any Symbol.isHalf)

/-! ## Numbers -/

/-- The run of digits at the start of a document. -/
def readDigits : List Symbol → Taken (List Char)
  | .char c :: rest =>
      if isDigit c then
        let (digits, rest) := readDigits rest
        (c :: digits, rest)
      else ([], .char c :: rest)
  | doc => ([], doc)

/-- The digits of a fraction, if a point and a digit follow. -/
def readFraction : List Symbol → Taken (List Char)
  | .char '.' :: rest =>
      let (digits, after) := readDigits rest
      if digits = [] then ([], .char '.' :: rest) else (digits, after)
  | doc => ([], doc)

/-- The sign of an exponent. -/
def readPowerSign : List Symbol → Taken Bool
  | .char '-' :: rest => (true, rest)
  | .char '+' :: rest => (false, rest)
  | doc => (false, doc)

/-- The exponent, if a letter for it and a digit follow. -/
def readPower? : List Symbol → Option (Taken Int)
  | .char c :: rest =>
      if c = 'e' ∨ c = 'E' then
        let (negative, rest) := readPowerSign rest
        let (digits, rest) := readDigits rest
        if digits = [] then none
        else
          let n : Int := decimalValue digits
          some (if negative then -n else n, rest)
      else none
  | _ => none

/-- The digits of a whole number, which no zero leads. -/
def readWhole : List Symbol → Taken (List Char)
  | .char '0' :: rest => (['0'], rest)
  | doc => readDigits doc

/-- A number without its sign. -/
def readUnsigned (dialect : Dialect) (negative : Bool) (doc : List Symbol) :
    Except Refusal (Taken Json) :=
  let (digits, rest) := readWhole doc
  if digits = [] then .error .malformed
  else
    let (fraction, rest) := readFraction rest
    let power := readPower? rest
    let whole := fraction.isEmpty && power.isNone
    if (whole || dialect.limitsFractions) && dialect.exceeds digits then .error .tooLong
    else if whole then
      let n : Int := decimalValue digits
      .ok (.int (if negative then -n else n), rest)
    else
      let rest := (power.map Prod.snd).getD rest
      let exponent := (power.map Prod.fst).getD 0 - fraction.length
      .ok (.float (.ofDecimal negative (decimalValue (digits ++ fraction)) exponent), rest)

/-- What follows a word at the start of a document. -/
def afterWord? (word : String) (doc : List Symbol) : Option (List Symbol) :=
  after? (symbols word.toList) doc

/-- A number. -/
def readNumber (dialect : Dialect) : List Symbol → Except Refusal (Taken Json)
  | .char '-' :: rest =>
      match afterWord? "Infinity" rest with
      | some rest => .ok (.float (.infinite true), rest)
      | none => readUnsigned dialect true rest
  | doc => readUnsigned dialect false doc

/-! ## Values -/

/-- The values that are single words. -/
def words : List (String × Json) :=
  [("null", .null), ("true", .bool true), ("false", .bool false), ("NaN", .float .notNumber),
    ("Infinity", .float (.infinite false))]

/-- A value that is a single word. -/
def readWord? (doc : List Symbol) : Option (Taken Json) :=
  words.findSome? fun word => (afterWord? word.1 doc).map fun rest => (word.2, rest)

/-- A value that holds no other values and is no text. -/
def readAtom (dialect : Dialect) (doc : List Symbol) : Except Refusal (Taken Json) :=
  match readWord? doc with
  | some part => .ok part
  | none => readNumber dialect doc

mutual

/-- A value at the start of a document; `depth` more containers may be entered. -/
def readValue (dialect : Dialect) :
    (fuel depth : Nat) → List Symbol → Except Refusal (Taken Json)
  | 0, _, _ => .error .malformed
  | fuel + 1, depth, doc =>
      match doc with
      | .char '"' :: rest =>
          (readText dialect rest).map fun part => (.ofSymbols part.1, part.2)
      | .char '[' :: rest =>
          match skipSpace rest with
          | .char ']' :: rest => .ok (.arr [], rest)
          | rest =>
              match depth with
              | 0 => .error (.tooDeep .list)
              | depth + 1 =>
                  (readItems dialect fuel depth rest).map fun part => (.arr part.1, part.2)
      | .char '{' :: rest =>
          match skipSpace rest with
          | .char '}' :: rest => .ok (.obj [], rest)
          | rest =>
              match depth with
              | 0 => .error (.tooDeep .object)
              | depth + 1 =>
                  (readFields dialect fuel depth rest).map fun part =>
                    (.obj (Table.ofEntries part.1), part.2)
      | doc => readAtom dialect doc

/-- The items of a list up to its closing bracket. -/
def readItems (dialect : Dialect) :
    (fuel depth : Nat) → List Symbol → Except Refusal (Taken (List Json))
  | 0, _, _ => .error .malformed
  | fuel + 1, depth, doc => do
      let (item, rest) ← readValue dialect fuel depth doc
      match skipSpace rest with
      | .char ']' :: rest => .ok ([item], rest)
      | .char ',' :: rest =>
          let (items, rest) ← readItems dialect fuel depth (skipSpace rest)
          .ok (item :: items, rest)
      | _ => .error .malformed

/-- The fields of an object up to its closing brace. -/
def readFields (dialect : Dialect) :
    (fuel depth : Nat) → List Symbol → Except Refusal (Taken (List (Writing × Json)))
  | 0, _, _ => .error .malformed
  | fuel + 1, depth, doc =>
      match doc with
      | .char '"' :: rest => do
          let (name, rest) ← readText dialect rest
          match skipSpace rest with
          | .char ':' :: rest =>
              let (value, rest) ← readValue dialect fuel depth (skipSpace rest)
              match skipSpace rest with
              | .char '}' :: rest => .ok ([(.ofSymbols name, value)], rest)
              | .char ',' :: rest =>
                  let (fields, rest) ← readFields dialect fuel depth (skipSpace rest)
                  .ok ((.ofSymbols name, value) :: fields, rest)
              | _ => .error .malformed
          | _ => .error .malformed
      | _ => .error .malformed

end

/-- The value that a document writes, if it is one JSON value and nothing else. -/
def read (dialect : Dialect) (doc : List Symbol) : Except Refusal Json :=
  match readValue dialect (2 * doc.length + 2) dialect.maxDepth (skipSpace doc) with
  | .ok (value, rest) => if skipSpace rest = [] then .ok value else .error .malformed
  | .error refusal => .error refusal

/-- The value that a text writes, if any. -/
def read? (dialect : Dialect) (cs : List Char) : Option Json :=
  (read dialect (symbols cs)).toOption

end PromptCanvas.Json
