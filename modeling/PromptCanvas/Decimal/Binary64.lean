set_option autoImplicit false

/-! # Double-precision numbers

A number with a fraction is a double: a sign, a significand below 2^53 and a power of two. It is kept
in that form, so that reading and writing it are exact computations on natural numbers.
`Binary64.ofRatio` rounds a quotient to the nearest double, a tie to the even significand. -/

namespace PromptCanvas

/-- A double: `significand * 2 ^ exponent` with a sign, or an infinity, or not a number. The exponent
    is at least -1074 and the significand has 53 bits unless the exponent is -1074. -/
inductive Binary64 where
  | finite (negative : Bool) (significand : Nat) (exponent : Int)
  | infinite (negative : Bool)
  | notNumber
deriving DecidableEq, Repr, Inhabited

namespace Binary64

/-- The smallest exponent of a double. -/
def minExponent : Int := -1074

/-- The largest exponent of a double. -/
def maxExponent : Int := 971

/-- The quotient rounded to the nearest whole number, a tie to the even one. -/
def roundDiv (num den : Nat) : Nat :=
  let low := num / den
  let rest := 2 * (num % den)
  if den < rest ∨ (den = rest ∧ low % 2 = 1) then low + 1 else low

/-- The quotient `num / (den * 2 ^ exponent)` rounded to a whole number. -/
def scaled (num den : Nat) (exponent : Int) : Nat :=
  if 0 ≤ exponent then roundDiv num (den <<< exponent.toNat)
  else roundDiv (num <<< (-exponent).toNat) den

/-- Whether the quotient is at least `2 ^ power`. -/
def atLeastPower (num den : Nat) (power : Int) : Bool :=
  if 0 ≤ power then den <<< power.toNat ≤ num else den ≤ num <<< (-power).toNat

/-- The exponent with which the quotient has a significand of 53 bits, or the smallest one. -/
def exponentOf (num den : Nat) : Int :=
  let guess := (num.log2 : Int) - (den.log2 : Int)
  let power := if atLeastPower num den guess then guess else guess - 1
  max (power - 52) minExponent

/-- The double nearest to `num / den`. -/
def ofRatio (negative : Bool) (num den : Nat) : Binary64 :=
  if num = 0 then finite negative 0 minExponent
  else
    let exponent := exponentOf num den
    let significand := scaled num den exponent
    let carried := significand = 1 <<< 53
    let exponent := if carried then exponent + 1 else exponent
    if maxExponent < exponent then infinite negative
    else finite negative (if carried then 1 <<< 52 else significand) exponent

/-- The double nearest to an integer. -/
def ofInt (n : Int) : Binary64 := ofRatio (n < 0) n.natAbs 1

/-- The double nearest to `digits * 10 ^ power`. Numbers far outside the range of doubles are
    recognised by their magnitude alone. -/
def ofDecimal (negative : Bool) (digits : Nat) (power : Int) : Binary64 :=
  let magnitude := ((Nat.toDigits 10 digits).length : Int) + power
  if digits = 0 ∨ magnitude < -400 then finite negative 0 minExponent
  else if 400 < magnitude then infinite negative
  else if 0 ≤ power then ofRatio negative (digits * Nat.pow 10 power.toNat) 1
  else ofRatio negative digits (Nat.pow 10 (-power).toNat)

/-- The absolute value as a quotient. -/
def ratio (significand : Nat) (exponent : Int) : Nat × Nat :=
  if 0 ≤ exponent then (significand <<< exponent.toNat, 1)
  else (significand, 1 <<< (-exponent).toNat)

/-- The integer that a double without a fraction is. -/
def toInt? : Binary64 → Option Int
  | finite negative significand exponent =>
      let (num, den) := ratio significand exponent
      if num % den = 0 then
        let n : Int := (num / den : Nat)
        some (if negative then -n else n)
      else none
  | _ => none

/-- The greatest integer that is not above a double. -/
def floor? : Binary64 → Option Int
  | finite negative significand exponent =>
      let (num, den) := ratio significand exponent
      let n : Int := num
      some ((if negative then -n else n).fdiv den)
  | _ => none

/-- The integer nearest to a double taken `factor` times, upwards from the middle between two. -/
def nearest? (factor : Nat) : Binary64 → Option Int
  | finite negative significand exponent =>
      let (num, den) := ratio significand exponent
      let n : Int := factor * num
      some ((2 * (if negative then -n else n) + den).fdiv (2 * den))
  | _ => none

/-- Whether a double is a number that is not infinite. -/
def isFinite : Binary64 → Bool
  | finite _ _ _ => true
  | _ => false

/-- Whether a number counts as zero. -/
def isZero : Binary64 → Bool
  | finite _ significand _ => significand == 0
  | _ => false

end Binary64

end PromptCanvas
