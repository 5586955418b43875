import PromptCanvas.Script.Prompt

set_option autoImplicit false

/-! # What a prompt tells

The pieces of a prompt one after the other, without the commas and the white space that set them off. -/

namespace PromptCanvas.Script

open Text

/-- A text without its commas and its white space. -/
def gist (cs : List Char) : List Char := cs.filter fun c => c != ',' && !isBlank c

/-- A name behind the words that lead to it, if there is a name that is not empty. -/
def introduced (words : String) (name : Option String) : List String :=
  if name.getD "" = "" then [] else [words, name.getD ""]

/-- Values in parentheses, if there are any. -/
def enclosed (opening : String) (values : List String) : List String :=
  if values = [] then [] else opening :: (values ++ [")"])

/-- The subject with its values, or the first name of the scene where there is no subject. -/
def Outline.leading (outline : Outline) : List String :=
  match outline.subject with
  | some subject => "A " :: subject.name :: subject.values
  | none => introduced "A scene of " outline.scene.firstName

/-- All that an outline tells, in order: the subject, the name of the scene and its values, and the values of
    style, camera and palette. -/
def Outline.telling (outline : Outline) : List String :=
  outline.leading ++ introduced "in a " outline.scene.name ++ outline.scene.values ++
    enclosed "style: (" outline.style.values ++ enclosed "camera details: (" outline.camera.values ++
    enclosed "color palette: (" outline.palette.values

end PromptCanvas.Script
