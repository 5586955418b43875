import PromptCanvas.Json.Basic
import PromptCanvas.Script.Lint
import PromptCanvas.Script.Outline

set_option autoImplicit false

/-! # Scripts in answers

The JSON of outlines and diagnostics. -/

namespace PromptCanvas.Script

/-- A property in an answer: its label and its text. -/
def Property.toJson (property : Property) : Json := .ofTexts [property.label, property.text]

/-- Properties in an answer. -/
def propertiesJson (properties : List Property) : Json := .arr (properties.map Property.toJson)

/-- A subject in an answer. -/
def Subject.toJson (subject : Subject) : Json :=
  .obj
    [("kind", .str subject.kind), ("name", .str subject.name),
      ("attributes", propertiesJson subject.properties)]

/-- The group of a part in an answer. -/
def Group.toJson (group : Group) (part : Part) : Json :=
  .obj
    [("kind", .str part.word), ("name", .ofText? group.name),
      ("first_name", .ofText? group.firstName), ("attributes", propertiesJson group.properties)]

/-- An outline in an answer. -/
def Outline.toJson (outline : Outline) : Json :=
  .obj
    [("subject", (outline.subject.map Subject.toJson).getD .null),
      group .scene, group .style, group .camera, group .palette,
      ("ignored_create_blocks", .ofNat outline.ignoredSubjects)]
where
  /-- The field for a part. -/
  group (part : Part) : Writing × Json := (part.word, (outline.group part).toJson part)

/-- A diagnostic in an answer. -/
def Diagnostic.toJson (diagnostic : Diagnostic) : Json :=
  .obj [("line", .ofNat diagnostic.line), ("message", .str diagnostic.message)]

end PromptCanvas.Script
