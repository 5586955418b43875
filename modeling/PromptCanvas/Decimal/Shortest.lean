import PromptCanvas.Decimal.Binary64
import PromptCanvas.Text.Numeral

set_option autoImplicit false

/-! # The shortest decimal text of a double

A double is written with the fewest digits that read back as the same double; of several such
decimals the nearest one is taken, and of two equally near ones the one with an even last digit.
`Layout` holds the choices of the written form: decimals from 10^-4 up to 10^16 are written
positionally with at least one digit after the point, the others with an exponent of at least two
digits and its sign. -/

namespace PromptCanvas.Decimal

open Text

/-- The number of digits before the decimal point of `num / den`; zero or less counts the zeros that
    follow the point. Searches at most `fuel` zeros. -/
def pointAfter (fuel num den : Nat) : Int :=
  if den ≤ num then ((decimalDigits (num / den)).length : Int)
  else zeros fuel (10 * num)
where
  /-- Minus the number of zeros after the point. -/
  zeros : Nat → Nat → Int
    | 0, _ => 0
    | fuel + 1, num => if den ≤ num then 0 else zeros fuel (10 * num) - 1

/-- A decimal `0.d₁d₂… * 10 ^ point` that might be written, its digits given as one number. -/
structure Candidate where
  digits : Nat
  point : Int
deriving DecidableEq, Repr

/-- The decimals of `count` digits on either side of `num / den`, the nearer one first; of two equally
    near ones the even one. -/
def neighbours (num den count : Nat) (point : Int) : List Candidate :=
  let shift : Int := count - point
  let num := if 0 ≤ shift then num * Nat.pow 10 shift.toNat else num
  let den := if 0 ≤ shift then den else den * Nat.pow 10 (-shift).toNat
  let low := num / den
  if num % den = 0 then [⟨low, point⟩]
  else if Binary64.roundDiv num den = low then [⟨low, point⟩, ⟨low + 1, point⟩]
  else [⟨low + 1, point⟩, ⟨low, point⟩]

/-- The double that a decimal of `count` digits reads as. -/
def Candidate.read (d : Candidate) (count : Nat) : Binary64 :=
  Binary64.ofDecimal false d.digits (d.point - count)

/-- The first decimal of `count` or more digits that reads back as `target`; `fuel` more digits are
    tried. -/
def shortestFrom (target : Binary64) (num den : Nat) (point : Int) : Nat → Nat → Candidate × Nat
  | 0, count => (((neighbours num den count point).head?).getD ⟨0, 0⟩, count)
  | fuel + 1, count =>
      match (neighbours num den count point).find? (fun d => d.read count == target) with
      | some d => (d, count)
      | none => shortestFrom target num den point fuel (count + 1)

/-- The digits of the shortest decimal of a positive double, without zeros at the end, and the place
    of its point. -/
def shortest (significand : Nat) (exponent : Int) : List Char × Int :=
  let (num, den) := Binary64.ratio significand exponent
  let point := pointAfter 400 num den
  let (d, count) := shortestFrom (.finite false significand exponent) num den point 16 1
  let written := decimalDigits d.digits
  let point := point + (written.length - count : Int)
  ((written.reverse.dropWhile (· == '0')).reverse, point)

/-! ## The written form -/

/-- The choices of a written form of doubles. -/
structure Layout where
  /-- The least place of the point that is written positionally. -/
  least : Int
  /-- The greatest place of the point that is written positionally. -/
  greatest : Int
  /-- The least number of digits of an exponent. -/
  exponentWidth : Nat
  infinityText : String
  notNumberText : String

/-- The form of the numbers in answers and messages. -/
def plainLayout : Layout := ⟨-3, 16, 2, "inf", "nan"⟩

/-- Digits with the point after the first `point` of them, zeros filled in on either side. -/
def positional (digits : List Char) (point : Int) : List Char :=
  if point ≤ 0 then '0' :: '.' :: List.replicate (-point).toNat '0' ++ digits
  else
    let whole := digits.take point.toNat
    let rest := digits.drop point.toNat
    whole ++ List.replicate (point.toNat - digits.length) '0' ++ '.' :: (if rest = [] then ['0'] else rest)

/-- Digits with the point after the first one and an exponent. -/
def scientific (width : Nat) (digits : List Char) (power : Int) : List Char :=
  let exponent := decimalDigits power.natAbs
  let padded := List.replicate (width - exponent.length) '0' ++ exponent
  let rest := digits.drop 1
  digits.take 1 ++ (if rest = [] then [] else '.' :: rest) ++
    'e' :: (if power < 0 then '-' else '+') :: padded

/-- The text of a double. -/
def Layout.render (layout : Layout) : Binary64 → String
  | .notNumber => layout.notNumberText
  | .infinite negative => (if negative then "-" else "") ++ layout.infinityText
  | .finite negative significand exponent =>
      let body :=
        if significand = 0 then ['0', '.', '0']
        else
          let (digits, point) := shortest significand exponent
          if layout.least ≤ point ∧ point ≤ layout.greatest then positional digits point
          else scientific layout.exponentWidth digits (point - 1)
      String.ofList (if negative then '-' :: body else body)

end PromptCanvas.Decimal
