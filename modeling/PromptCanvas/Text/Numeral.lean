set_option autoImplicit false

/-! # Numerals

Whole numbers in decimal and hexadecimal digits, read and written. -/

namespace PromptCanvas.Text

/-- The value of a decimal digit. -/
def digitValue? (c : Char) : Option Nat :=
  if '0' ≤ c ∧ c ≤ '9' then some (c.toNat - '0'.toNat) else none

/-- A decimal digit. -/
def isDigit (c : Char) : Bool := (digitValue? c).isSome

/-- The value of a hexadecimal digit, in either case. -/
def hexValue? (c : Char) : Option Nat :=
  if '0' ≤ c ∧ c ≤ '9' then some (c.toNat - '0'.toNat)
  else if 'a' ≤ c ∧ c ≤ 'f' then some (c.toNat - 'a'.toNat + 10)
  else if 'A' ≤ c ∧ c ≤ 'F' then some (c.toNat - 'A'.toNat + 10)
  else none

/-- The number that a run of decimal digits writes; other characters count as nothing. -/
def decimalValue (digits : List Char) : Nat :=
  digits.foldl (fun n c => 10 * n + (digitValue? c).getD 0) 0

/-- The decimal digits of a number. -/
def decimalDigits (n : Nat) : List Char := Nat.toDigits 10 n

/-- The lower-case hexadecimal digits of a number, zeros in front up to `width` digits. -/
def hexDigits (width n : Nat) : List Char :=
  let digits := Nat.toDigits 16 n
  List.replicate (width - digits.length) '0' ++ digits

/-- The greatest number of digits of a decimal numeral that is made or read. -/
def maxDigits : Nat := 4300

/-- Whether the decimal numeral of an integer can be made: none with more than `maxDigits` digits is. -/
def hasNumeral (n : Int) : Bool := n.natAbs < Nat.pow 10 maxDigits

/-- The decimal numeral of an integer that has one, a minus sign in front of a negative one. -/
def integerText : Int → String
  | .ofNat n => String.ofList (decimalDigits n)
  | .negSucc n => String.ofList ('-' :: decimalDigits (n + 1))

end PromptCanvas.Text
