import PromptCanvas.Script.Outline
import PromptCanvas.Validation.Value

set_option autoImplicit false

/-! # Descriptions of outlines

The outline that a JSON value describes. What a description leaves out is absent from the outline; what it
gives must fit, and the faults of all its parts are collected in the order of the parts. -/

namespace PromptCanvas.Script

open Value

/-- A property: a list of a label and a text. -/
def Property.read (value : Json) : Checked Property :=
  match value with
  | .arr items =>
      if 2 < items.length then .fault .listTooLong value
      else ((Checked.ok Property.mk).app (part 0 items[0]?)).app (part 1 items[1]?)
  | _ => .fault .pairExpected value
where
  /-- One of the two texts. -/
  part (index : Nat) : Option Json → Checked String
    | some item => (Value.text item).under index
    | none => (Checked.fault .missing value).under index

/-- A subject. -/
def Subject.read (fields : Json.Fields) : Checked Subject :=
  (((Checked.ok Subject.mk).app
    (required fields "kind" text)).app
    (required fields "name" text)).app
    (optional fields "attributes" [] (listOf Property.read))

/-- A group of settings, which also names its kind. -/
def Group.read (fields : Json.Fields) : Checked Group :=
  ((((Checked.ok fun _ => Group.mk).app
    (required fields "kind" text)).app
    (optional fields "name" none text?)).app
    (optional fields "first_name" none text?)).app
    (optional fields "attributes" [] (listOf Property.read))

/-- A subject, or null for none. -/
def readSubject? : Json → Checked (Option Subject)
  | .null => .ok none
  | value => (record Subject.read value).map some

/-- The outline that the fields of a description give. -/
def Outline.read (fields : Json.Fields) : Checked Outline :=
  ((((((Checked.ok Outline.mk).app
    (optional fields "subject" none readSubject?)).app
    (group .scene)).app
    (group .style)).app
    (group .camera)).app
    (group .palette)).app
    (optional fields "ignored_create_blocks" 0 fun value => (integer value).map Int.toNat)
where
  /-- The group that is described for a part. -/
  group (part : Part) : Checked Group := optional fields part.word {} (record Group.read)

end PromptCanvas.Script
