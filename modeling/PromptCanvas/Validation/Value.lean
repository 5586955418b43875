import PromptCanvas.Decimal.Reading
import PromptCanvas.Json.Basic
import PromptCanvas.Validation.Fault
import PromptCanvas.Validation.Moment

set_option autoImplicit false

/-! # Values of fields

The rules by which a JSON value becomes the value of a field. They are those that pydantic documents for its lax
mode from version 2.5 on: a number may arrive as text, a truth value as a number or a word. A text arrives only as
a text. Nodes hold whole texts only, so one that is torn is made whole. -/

namespace PromptCanvas.Value

open Checked

/-- A text, made whole where it is torn. -/
def text : Json → Checked String
  | .str s => .ok s
  | .torn symbols => .ok (Text.mended symbols)
  | value => fault .textExpected value

/-- A text, or null for none. -/
def text? : Json → Checked (Option String)
  | .null => .ok none
  | value => (text value).map some

/-! ## Truth values -/

/-- The words for yes, in lower case. -/
def yesWords : List String := ["true", "t", "yes", "y", "on", "1"]

/-- The words for no, in lower case. -/
def noWords : List String := ["false", "f", "no", "n", "off", "0"]

/-- The word in lower case; only letters of ASCII change. -/
def lowered (s : String) : String := String.ofList (s.toList.map Char.toLower)

/-- The truth value that a whole number stands for. -/
def truthOfInt? (n : Int) : Option Bool :=
  if n = 0 then some false else if n = 1 then some true else none

/-- The truth value that a word stands for. -/
def truthOfWord? (s : String) : Option Bool :=
  if lowered s ∈ yesWords then some true else if lowered s ∈ noWords then some false else none

/-- 2^63, the first number that has no place in a word of 64 bits with a sign. -/
def wordBound : Int := 9223372036854775808

/-- The whole numbers of 64 bits. -/
def isWord64 (n : Int) : Bool := -wordBound ≤ n && n < wordBound

/-- The whole number that a double is, if it lies strictly between -2^63 and 2^63. -/
def innerWord? (x : Binary64) : Option Int :=
  x.toInt?.filter fun n => -wordBound < n && n < wordBound

/-- A truth value. -/
def truth (value : Json) : Checked Bool :=
  match value with
  | .bool b => .ok b
  | .int n => if isWord64 n then readable (truthOfInt? n) else fault .truthExpected value
  | .float x =>
      match innerWord? x with
      | some n => readable (truthOfInt? n)
      | none => fault .truthExpected value
  | .str s => readable (truthOfWord? s)
  | .torn _ => fault .textTorn value
  | _ => fault .truthExpected value
where
  /-- What was read, or the fault of an unreadable value. -/
  readable : Option Bool → Checked Bool
    | some b => .ok b
    | none => fault .truthUnreadable value

/-! ## Numbers -/

/-- A whole number. -/
def integer (value : Json) : Checked Int :=
  match value with
  | .int n => .ok n
  | .bool b => .ok (if b then 1 else 0)
  | .float x =>
      if !x.isFinite then fault .integerNotFinite value
      else if x.toInt?.isNone then fault .integerHasFraction value
      else
        match innerWord? x with
        | some n => .ok n
        | none => fault .integerTooLong value
  | .str s =>
      match Decimal.readInteger s with
      | .ok n => .ok n
      | .error .tooLong => fault .integerTooLong value
      | .error .unreadable => fault .integerUnreadable value
  | .torn _ => fault .textTorn value
  | _ => fault .integerExpected value

/-- A whole number not below `least`. -/
def integerFrom (least : Int) (value : Json) : Checked Int :=
  (integer value).andThen fun n => if n < least then fault .integerTooSmall value else .ok n

/-- A number with a fraction. A whole number beyond all doubles is none. -/
def real (value : Json) : Checked Binary64 :=
  match value with
  | .float x => .ok x
  | .bool b => .ok (.ofInt (if b then 1 else 0))
  | .int n =>
      if (Binary64.ofInt n).isFinite then .ok (.ofInt n) else fault .realExpected value
  | .str s =>
      match Decimal.readReal? s with
      | some x => .ok x
      | none => fault .realUnreadable value
  | .torn _ => fault .textTorn value
  | _ => fault .realExpected value

/-! ## Times -/

/-- A point in time. -/
def time (value : Json) : Checked Moment :=
  match value with
  | .int n =>
      if (Binary64.ofInt n).isFinite then checked (Moment.ofWhole n)
      else fault .timeExpected value
  | .float x =>
      match x.floor? with
      | some n => checked (Moment.ofCount x n)
      | none => fault .timeOutOfRange value
  | .str s => checked (Moment.ofText s)
  | .torn _ => fault .textTorn value
  | _ => fault .timeExpected value
where
  /-- The moment that was read, or the fault of a value that is none. -/
  checked : Except Moment.TimeFault Moment → Checked Moment
    | .ok moment => .ok moment
    | .error .unreadable => fault .timeUnreadable value
    | .error .outOfRange => fault .timeOutOfRange value

/-! ## Objects -/

/-- Any object. -/
def object : Json → Checked Json.Fields
  | .obj fields => .ok fields
  | value => fault .objectExpected value

/-- A record whose fields are read. -/
def record {α : Type} (read : Json.Fields → Checked α) : Json → Checked α
  | .obj fields => read fields
  | value => fault .recordExpected value

/-- A table of numbers. -/
def reals (value : Json) : Checked (Table Writing Binary64) :=
  (object value).andThen fun fields =>
    all (fields.map fun entry => ((real entry.2).map fun x => (entry.1, x)).under entry.1)

/-- A table of numbers, or null for none. -/
def reals? : Json → Checked (Option (Table Writing Binary64))
  | .null => .ok none
  | value => (reals value).map some

/-- One of a set of choices, given by its name. -/
def choice {α : Type} (ofSlug? : String → Option α) (value : Json) : Checked α :=
  match value with
  | .str s =>
      match ofSlug? s with
      | some a => .ok a
      | none => fault .choiceUnknown value
  | _ => fault .choiceUnknown value

/-- A list whose items are checked one by one. -/
def listOf {α : Type} (check : Json → Checked α) : Json → Checked (List α)
  | .arr items => all (items.mapIdx fun i item => (check item).under i)
  | value => fault .listExpected value

/-! ## Fields of objects -/

/-- A field that must be given. -/
def required {α : Type} (fields : Json.Fields) (name : String) (check : Json → Checked α) :
    Checked α :=
  match fields.get? name with
  | some value => (check value).under name
  | none => (fault .missing (.obj fields)).under name

/-- A field that has a default. -/
def optional {α : Type} (fields : Json.Fields) (name : String) (default : α)
    (check : Json → Checked α) : Checked α :=
  match fields.get? name with
  | some value => (check value).under name
  | none => .ok default

end PromptCanvas.Value
