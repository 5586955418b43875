import PromptCanvas.Json.Basic
import PromptCanvas.Text.Search

set_option autoImplicit false

/-! # Texts with placeholders

A placeholder is a name between braces. A brace of the text itself is written twice. `fill?` walks a text once
and puts in the place of each placeholder the value of its name; the values are not walked. -/

namespace PromptCanvas.Text

/-- A part of a text with placeholders. -/
inductive Part where
  /-- Words that are not changed. -/
  | words (s : String)
  | place (name : String)
deriving DecidableEq, Repr

/-- How a part is written: braces of its words twice, a name between braces. -/
def Part.written : Part → List Char
  | .words s => s.toList.flatMap fun c => if c = '\x7b' ∨ c = '\x7d' then [c, c] else [c]
  | .place name => '\x7b' :: name.toList ++ ['\x7d']

/-- The text that is written with some parts, one after the other. -/
def written (parts : List Part) : String := String.ofList (parts.flatMap Part.written)

/-- The text of a part, where its name has a value. -/
def Part.text (values : Table String String) : Part → String
  | .words s => s
  | .place name => (values.get? name).getD ""

/-- The text that some parts come to, one after the other. -/
def filled (values : Table String String) (parts : List Part) : String :=
  String.join (parts.map (Part.text values))

end PromptCanvas.Text
