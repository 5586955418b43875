import PromptCanvas.Script.Block
import PromptCanvas.Script.Comment

set_option autoImplicit false

/-! # The outline of a script

What a script says about its picture: a subject, which is its first `create` block, and four groups of
properties, each gathered from all `set` blocks of one kind. Settings of other kinds say nothing. -/

namespace PromptCanvas.Script

/-- The kinds of settings that count. -/
inductive Part where
  | scene
  | style
  | camera
  | palette
deriving DecidableEq, Repr, Inhabited

namespace Part

/-- The parts in the order in which a prompt speaks of them. -/
def all : List Part := [scene, style, camera, palette]

/-- The word for a part in a script. -/
def word : Part → String
  | scene => "scene"
  | style => "style"
  | camera => "camera"
  | palette => "palette"

/-- The part that a word names. -/
def ofWord? (s : String) : Option Part := all.find? fun part => part.word == s

end Part

/-- The gathered settings of one part. Only the scene has names: the first and the last one given. -/
structure Group where
  name : Option String := none
  firstName : Option String := none
  properties : List Property := []
deriving DecidableEq, Repr, Inhabited

/-- The texts of the properties. -/
def Group.values (group : Group) : List String := group.properties.map Property.text

/-- The texts of the properties. -/
def Subject.values (subject : Subject) : List String := subject.properties.map Property.text

/-- A setting joins its group. -/
def Group.add (group : Group) (part : Part) (setting : Setting) : Group :=
  let properties := group.properties ++ setting.properties
  match part, setting.name with
  | .scene, some name => ⟨some name, some (group.firstName.getD name), properties⟩
  | _, _ => { group with properties := properties }

/-- What a script says. -/
structure Outline where
  subject : Option Subject := none
  scene : Group := {}
  style : Group := {}
  camera : Group := {}
  palette : Group := {}
  /-- The number of `create` blocks after the first one. -/
  ignoredSubjects : Nat := 0
deriving DecidableEq, Repr, Inhabited

namespace Outline

/-- The group of a part. -/
def group (outline : Outline) : Part → Group
  | .scene => outline.scene
  | .style => outline.style
  | .camera => outline.camera
  | .palette => outline.palette

/-- The outline with another group for a part. -/
def setGroup (outline : Outline) (part : Part) (group : Group) : Outline :=
  match part with
  | .scene => { outline with scene := group }
  | .style => { outline with style := group }
  | .camera => { outline with camera := group }
  | .palette => { outline with palette := group }

/-- A setting joins the group of its kind, if the kind counts. -/
def addSetting (outline : Outline) (setting : Setting) : Outline :=
  match Part.ofWord? setting.kind with
  | some part => outline.setGroup part ((outline.group part).add part setting)
  | none => outline

/-- The outline that blocks determine. -/
def ofBlocks (subjects : List Subject) (settings : List Setting) : Outline :=
  settings.foldl addSetting
    { subject := subjects.head?, ignoredSubjects := subjects.length - 1 }

/-- The outline of a flattened script. -/
def ofFlat (cs : List Char) : Outline := ofBlocks (scanAll subject? cs) (scanAll setting? cs)

/-- The outline of a script. -/
def ofScript (script : String) : Outline := ofFlat (flatten script.toList)

/-- Whether a group says nothing. -/
def silent (group : Group) : Bool := group.properties.isEmpty && group.name.getD "" == ""

/-- Whether a script says nothing. -/
def isEmpty (outline : Outline) : Bool :=
  outline.subject.isNone && Part.all.all fun part => silent (outline.group part)

end Outline

end PromptCanvas.Script
