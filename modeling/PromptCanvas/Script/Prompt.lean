import PromptCanvas.Script.Outline

set_option autoImplicit false

/-! # The prompt of a script

The prompt is a list of segments with commas between them: the subject, the scene's name, the scene's
values, and one segment of details. Blank segments are left out, and of several commas with only white
space between them one is kept. A script that says nothing is its own prompt, trimmed. -/

namespace PromptCanvas.Script

open Text

/-- The segments about the subject, or about the scene where there is no subject. -/
def Outline.lead (outline : Outline) : List String :=
  match outline.subject with
  | some subject =>
      ("A " ++ subject.name) ::
        (if subject.values = [] then [] else [", ".intercalate subject.values])
  | none =>
      let name := outline.scene.firstName.getD ""
      if name = "" then [] else ["A scene of " ++ name]

/-- The segments about the scene. -/
def Outline.place (outline : Outline) : List String :=
  let name := outline.scene.name.getD ""
  (if name = "" then [] else ["in a " ++ name]) ++ outline.scene.values

/-- The details that a prompt lists, with the words it lists them under. -/
def detailLabels : List (Part × String) :=
  [(.style, "style"), (.camera, "camera details"), (.palette, "color palette")]

/-- The segment about style, camera and palette. -/
def Outline.details (outline : Outline) : List String :=
  let told := detailLabels.filterMap fun (part, label) =>
    let values := (outline.group part).values
    if values = [] then none else some (label ++ ": (" ++ ", ".intercalate values ++ ")")
  if told = [] then [] else [", ".intercalate told]

/-- All segments of the prompt. -/
def Outline.segments (outline : Outline) : List String :=
  outline.lead ++ outline.place ++ outline.details

/-- The text with one comma for every run of commas and white space between them; `folding` says
    whether a comma has been dropped just before. -/
def foldCommas : (folding : Bool) → List Char → List Char
  | _, [] => []
  | folding, c :: rest =>
      if folding ∧ isBlank c then foldCommas true rest
      else if c = ',' ∧ (trimStart rest).head? = some ',' then foldCommas true rest
      else c :: foldCommas false rest

/-- The prompt of an outline. It may be blank. -/
def Outline.prompt (outline : Outline) : String :=
  let segments := outline.segments.filter fun segment => !blank segment
  String.ofList (foldCommas false (", ".intercalate segments).toList)

/-- The prompt of a script. -/
def compile (script : String) : String :=
  let outline := Outline.ofScript script
  if outline.isEmpty then trimmed script
  else
    let prompt := trimmed outline.prompt
    if prompt = "" then trimmed script else prompt

end PromptCanvas.Script
