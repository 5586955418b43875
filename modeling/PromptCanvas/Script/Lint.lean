import PromptCanvas.Script.Comment
import PromptCanvas.Text.Blank
import PromptCanvas.Text.Search
import PromptCanvas.Text.Word

set_option autoImplicit false

/-! # Line diagnostics

The script editor marks each line that ends right after the closing quote of a property, where a
semicolon is missing. -/

namespace PromptCanvas.Script

open Text

/-- A diagnostic of one line, counted from 1. -/
structure Diagnostic where
  line : Nat
  message : String
deriving DecidableEq, Repr

/-- The one message of the linter. -/
def missingSemicolon : String := "Missing semicolon at the end of the line."

/-- A colon, white space and a quote. -/
def opensText : List Char → Bool
  | ':' :: rest => (trimStart rest).head? == some '"'
  | _ => false

/-- Whether a label with its colon and an opening quote stands somewhere in a text. -/
def opensProperty : List Char → Bool
  | [] => false
  | c :: rest => (isWord c && opensText (trimStart rest)) || opensProperty rest

/-- Whether a line ends in the closing quote of a property. -/
def unterminated (line : List Char) : Bool :=
  let line := trim line
  line.getLast? == some '"' && opensProperty line.dropLast

/-- The numbers of the lines that `flagged` picks, counted from `first`. -/
def flaggedLines (flagged : List Char → Bool) : (first : Nat) → List (List Char) → List Nat
  | _, [] => []
  | first, line :: rest =>
      if flagged line then first :: flaggedLines flagged (first + 1) rest
      else flaggedLines flagged (first + 1) rest

/-- The diagnostics of a script. -/
def lint (script : String) : List Diagnostic :=
  (flaggedLines unterminated 1 (script.toList.splitOn '\n')).map fun line =>
    ⟨line, missingSemicolon⟩

/-- The diagnostics of a script when its comments are cut off first. -/
def lintUncommented (script : String) : List Diagnostic :=
  lint (String.ofList (cutComments false script.toList))

end PromptCanvas.Script
