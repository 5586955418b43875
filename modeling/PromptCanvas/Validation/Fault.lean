import PromptCanvas.Json.Basic

set_option autoImplicit false

/-! # Faults of field values

A value that does not fit its field is answered with a fault: where it stands, what is wrong, and what
was given. `Checked` collects the faults of several fields in their order. -/

namespace PromptCanvas

/-- What can be wrong with the value of a field. -/
inductive FaultKind where
  | missing
  | textExpected
  | textTorn
  | truthExpected
  | truthUnreadable
  | integerExpected
  | integerUnreadable
  | integerTooLong
  | integerHasFraction
  | integerNotFinite
  | integerTooSmall
  | realExpected
  | realUnreadable
  | objectExpected
  | formExpected
  | recordExpected
  | listExpected
  | pairExpected
  | listTooLong
  | choiceUnknown
  | timeExpected
  | timeUnreadable
  | timeOutOfRange
  | valueRefused
  | bodyUnreadable
deriving DecidableEq, Repr

/-- The code of a fault in an answer. -/
def FaultKind.code : FaultKind → String
  | .missing => "missing"
  | .textExpected => "string_type"
  | .textTorn => "string_unicode"
  | .truthExpected => "bool_type"
  | .truthUnreadable => "bool_parsing"
  | .integerExpected => "int_type"
  | .integerUnreadable => "int_parsing"
  | .integerTooLong => "int_parsing_size"
  | .integerHasFraction => "int_from_float"
  | .integerNotFinite => "finite_number"
  | .integerTooSmall => "greater_than_equal"
  | .realExpected => "float_type"
  | .realUnreadable => "float_parsing"
  | .objectExpected => "dict_type"
  | .formExpected => "model_attributes_type"
  | .recordExpected => "model_type"
  | .listExpected => "list_type"
  | .pairExpected => "tuple_type"
  | .listTooLong => "too_long"
  | .choiceUnknown => "enum"
  | .timeExpected => "datetime_type"
  | .timeUnreadable => "datetime_from_date_parsing"
  | .timeOutOfRange => "datetime_parsing"
  | .valueRefused => "value_error"
  | .bodyUnreadable => "json_invalid"

/-- A step on the path to a value: into a field of an object, or to an item of a list. -/
inductive PathStep where
  | field (name : String)
  | item (index : Nat)
deriving DecidableEq, Repr

namespace PathStep

instance : Coe String PathStep := ⟨field⟩

instance : Coe Writing PathStep := ⟨fun name => field name.mended⟩

instance : Coe Nat PathStep := ⟨item⟩

/-- A step in an answer. -/
def toJson : PathStep → Json
  | field name => .str name
  | item index => .ofNat index

end PathStep

/-- A fault, the path to the value that has it, and what was given. -/
structure Fault where
  path : List PathStep
  kind : FaultKind
  /-- The value that has the fault; the whole object where a field of it is missing. -/
  given : Json
deriving Repr

/-- A fault in an answer. -/
def Fault.toJson (fault : Fault) : Json :=
  .obj [("loc", .arr (fault.path.map PathStep.toJson)), ("type", .str fault.kind.code)]

/-- A value, or the faults of what was given instead. -/
inductive Checked (α : Type) where
  | ok (value : α)
  | faulty (faults : List Fault)
deriving Repr

namespace Checked

variable {α β : Type}

/-- A single fault, at the given value itself. -/
def fault (kind : FaultKind) (given : Json) : Checked α := .faulty [⟨[], kind, given⟩]

/-- The faults, if any. -/
def faults : Checked α → List Fault
  | .ok _ => []
  | .faulty fs => fs

/-- The value through a function. -/
def map (f : α → β) : Checked α → Checked β
  | .ok a => .ok (f a)
  | .faulty fs => .faulty fs

/-- A further check of a value without fault. -/
def andThen (c : Checked α) (f : α → Checked β) : Checked β :=
  match c with
  | .ok a => f a
  | .faulty fs => .faulty fs

/-- A function and its argument, both checked: the faults of both, in order. -/
def app (f : Checked (α → β)) (a : Checked α) : Checked β :=
  match f, a with
  | .ok f, .ok a => .ok (f a)
  | .ok _, .faulty fs => .faulty fs
  | .faulty fs, .ok _ => .faulty fs
  | .faulty fs, .faulty gs => .faulty (fs ++ gs)

/-- The same check, one step further down the path. -/
def under (step : PathStep) : Checked α → Checked α
  | .ok a => .ok a
  | .faulty fs => .faulty (fs.map fun fault => { fault with path := step :: fault.path })

/-- All values of a list of checks, or all their faults. -/
def all : List (Checked α) → Checked (List α)
  | [] => .ok []
  | c :: rest => (c.map fun a as => a :: as).app (all rest)

end Checked

end PromptCanvas
