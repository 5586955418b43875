import PromptCanvas.Json.Basic
import PromptCanvas.Text.Numeral

set_option autoImplicit false

/-! # Values and what can be written

How deep a value is nested, and whether it can be written: JSON has no way to write an infinity or a missing
number, no numeral has more than so many digits, and no encoding has a place for half a pair of units.
`presented` is the value in which null stands in the place of numbers that are not finite and torn names are
made whole. -/

namespace PromptCanvas.Json

open Text

/-! ## Nesting -/

mutual

/-- The number of values on the longest way into a value, the value itself included. -/
def height : Json → Nat
  | .arr items => itemsHeight items + 1
  | .obj fields => fieldsHeight fields + 1
  | _ => 1

/-- The greatest height of the items of a list. -/
def itemsHeight : List Json → Nat
  | [] => 0
  | item :: rest => max (height item) (itemsHeight rest)

/-- The greatest height of the fields of an object. -/
def fieldsHeight : Fields → Nat
  | [] => 0
  | (_, value) :: rest => max (height value) (fieldsHeight rest)

end

/-! ## Flaws -/

mutual

/-- The numbers, texts and names of a value, in the order in which they are written. -/
def parts : Json → List Json
  | .arr items => itemsParts items
  | .obj fields => fieldsParts fields
  | value => [value]

/-- The parts of the items of a list. -/
def itemsParts : List Json → List Json
  | [] => []
  | item :: rest => parts item ++ itemsParts rest

/-- The parts of the fields of an object, the name of each before its value. -/
def fieldsParts : Fields → List Json
  | [] => []
  | (name, value) :: rest => ofWriting name :: (parts value ++ fieldsParts rest)

end

/-- Why a value cannot be written. -/
inductive Flaw where
  /-- It holds an infinity or a missing number. -/
  | notFinite
  /-- It holds a whole number whose numeral is too long. -/
  | tooLong
  /-- It holds a torn text. -/
  | torn
deriving DecidableEq, Repr

/-- The flaw of a number. -/
def numberFlaw? : Json → Option Flaw
  | .float x => if x.isFinite then none else some .notFinite
  | .int n => if hasNumeral n then none else some .tooLong
  | _ => none

/-- Whether a value is a torn text. -/
def isTorn : Json → Bool
  | .torn _ => true
  | _ => false

/-- The flaw that values show first when they are written. Numerals are made before any text is encoded. -/
def flaw? (values : List Json) : Option Flaw :=
  let all := values.flatMap parts
  (all.findSome? numberFlaw?).or (if all.any isTorn then some .torn else none)

/-- Whether a value can be written. -/
def isSendable (value : Json) : Bool :=
  value.parts.all fun part => part.numberFlaw?.isNone && !part.isTorn

/-! ## Values in answers -/

mutual

/-- The value with null for every number that is not finite, and with whole names. -/
def presented : Json → Json
  | .float x => if x.isFinite then .float x else .null
  | .arr items => .arr (presentedItems items)
  | .obj fields => .ofTable (presentedFields fields).mended
  | value => value

/-- The items of a list, all of them presented. -/
def presentedItems : List Json → List Json
  | [] => []
  | item :: rest => presented item :: presentedItems rest

/-- The fields of an object, the values of all of them presented. -/
def presentedFields : Fields → Fields
  | [] => []
  | (name, value) :: rest => (name, presented value) :: presentedFields rest

end

end PromptCanvas.Json
