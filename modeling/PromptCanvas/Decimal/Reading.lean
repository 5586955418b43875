import PromptCanvas.Decimal.Binary64
import PromptCanvas.Text.Blank
import PromptCanvas.Text.Numeral
import PromptCanvas.Text.Search

set_option autoImplicit false

/-! # Reading numbers

Numbers that arrive as text in a field. `readInteger` reads a whole number. Its plain form is a run of
digits without zeros in front, after an optional minus sign; any other spelling is brought to the plain
form by `plainForm?`: white space around the number, a plus sign, zeros in front, a point with zeros
only, and single underscores between digits do not count. `readReal?` reads a decimal with an optional
fraction and exponent, or the name of an infinity or of a missing number. -/

namespace PromptCanvas.Decimal

open Text

/-- White space around a number. The separators U+001C to U+001F are not ignored. -/
def isPadding (c : Char) : Bool := isBlank c && !(0x1C ≤ c.toNat && c.toNat ≤ 0x1F)

/-- The text without the white space around it. -/
def unpadded (cs : List Char) : List Char :=
  ((cs.dropWhile isPadding).reverse.dropWhile isPadding).reverse

/-- The text without its underscores, if none stands at an end or beside another. -/
def dropUnderscores? (cs : List Char) : Option (List Char) :=
  if cs.head? = some '_' ∨ cs.getLast? = some '_' ∨ occurs ['_', '_'] cs then none
  else some (cs.filter (· ≠ '_'))

/-! ## Whole numbers -/

/-- Why a text is not read as a whole number. -/
inductive NumeralFault where
  | unreadable
  | tooLong
deriving DecidableEq, Repr

/-- A minus sign in front of a number, and the rest. -/
def readMinus : List Char → Bool × List Char
  | '-' :: rest => (true, rest)
  | cs => (false, cs)

/-- The whole number that a text in plain form writes. Too many digits are noticed before what may
    follow them. -/
def readPlain (cs : List Char) : Except NumeralFault Int :=
  let (negative, body) := readMinus cs
  let digits := body.takeWhile isDigit
  if digits = [] ∨ (digits.head? = some '0' ∧ 1 < digits.length) then .error .unreadable
  else if maxDigits < digits.length then .error .tooLong
  else if digits.length < body.length then .error .unreadable
  else
    let n : Int := decimalValue digits
    .ok (if negative then -n else n)

/-- What follows zeros and underscores, of which `last` was met last: the rest from a digit or a minus
    sign on; `last` itself before a point or the end. -/
def afterZeros? (last : Char) : List Char → Option (List Char)
  | [] => some [last]
  | c :: rest =>
      if c = '0' ∨ c = '_' then afterZeros? c rest
      else if c = '.' then some (last :: c :: rest)
      else if isDigit c ∨ c = '-' then some (c :: rest)
      else none

/-- A number that starts with a digit, without the zeros in front. -/
def dropZeros? : List Char → Option (List Char)
  | [] => none
  | c :: rest =>
      if c = '0' then afterZeros? c rest else if isDigit c then some (c :: rest) else none

/-- A number without its point and what follows it, if that is zeros. -/
def dropZeroFraction (cs : List Char) : List Char :=
  match cutAt? ['.'] cs with
  | some (whole, fraction) =>
      if fraction ≠ [] ∧ fraction.all (· == '0') then whole else cs
  | none => cs

/-- The number without a plus sign in front, which no minus sign may follow. -/
def dropPlus? : List Char → Option (List Char)
  | '+' :: '-' :: _ => none
  | '+' :: rest => some rest
  | cs => some cs

/-- The plain form of a number in another spelling. -/
def plainForm? (cs : List Char) : Option (List Char) := do
  let (negative, body) := readMinus (← dropPlus? (unpadded cs))
  let body := dropZeroFraction (← dropZeros? body)
  let body := (dropUnderscores? body).getD body
  some (if negative then '-' :: body else body)

/-- The whole number that a text in another spelling writes, if it is one of few enough digits. -/
def readRespelled? (cs : List Char) : Option Int :=
  (plainForm? cs).bind fun plain => (readPlain plain).toOption

/-- The whole number that a text writes, in plain form or in another spelling. Only the plain form tells
    a number that is too long from a text that is none. -/
def readInteger (s : String) : Except NumeralFault Int :=
  match readPlain s.toList with
  | .error .unreadable =>
      match readRespelled? s.toList with
      | some n => .ok n
      | none => .error .unreadable
  | result => result

/-! ## Numbers with a fraction -/

/-- The sign in front of a number, and the rest. -/
def readSign : List Char → Bool × List Char
  | '-' :: rest => (true, rest)
  | '+' :: rest => (false, rest)
  | cs => (false, cs)

/-- The exponent after a decimal: nothing, or the letter, a sign and digits. -/
def readExponent? : List Char → Option Int
  | [] => some 0
  | c :: cs =>
      if c = 'e' ∨ c = 'E' then
        let (negative, digits) := readSign cs
        if digits = [] ∨ ¬ digits.all isDigit then none
        else
          let n : Int := decimalValue digits
          some (if negative then -n else n)
      else none

/-- A decimal without its sign: digits, at most one point among or around them, an exponent. -/
def readDecimal? (negative : Bool) (cs : List Char) : Option Binary64 := do
  let whole := cs.takeWhile isDigit
  let rest := cs.dropWhile isDigit
  let (fraction, rest) :=
    match rest with
    | '.' :: after => (after.takeWhile isDigit, after.dropWhile isDigit)
    | other => ([], other)
  if whole = [] ∧ fraction = [] then none
  else
    let power ← readExponent? rest
    some (Binary64.ofDecimal negative (decimalValue (whole ++ fraction)) (power - fraction.length))

/-- The names of the numbers that have no digits, in any case of letters. -/
def readNamed? (negative : Bool) (cs : List Char) : Option Binary64 :=
  let name := String.ofList (cs.map Char.toLower)
  if name = "inf" ∨ name = "infinity" then some (.infinite negative)
  else if name = "nan" then some .notNumber
  else none

/-- A number without padding and underscores. -/
def readSigned? (cs : List Char) : Option Binary64 :=
  let (negative, cs) := readSign cs
  (readNamed? negative cs).or (readDecimal? negative cs)

/-- A number with an optional fraction and exponent. White space around it does not count; nor do single
    underscores inside it, where no white space is around it. -/
def readReal? (s : String) : Option Binary64 :=
  (readSigned? (unpadded s.toList)).or ((dropUnderscores? s.toList).bind readSigned?)

end PromptCanvas.Decimal
