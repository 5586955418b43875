import PromptCanvas.Script.Comment
import PromptCanvas.Text.Search

set_option autoImplicit false

/-! # Comments on the lines of a script

A comment takes up the rest of a line. It starts with the first two slashes of the line, or, if slashes between
an opening quote and its closing quote on the same line are text, with the first two slashes elsewhere.

Lines end with a line feed. Where they are to end otherwise, another text is written for each line feed. -/

namespace PromptCanvas.Script

open Text

/-- The script with each line changed on its own. -/
def overLines (change : List Char → List Char) (cs : List Char) : List Char :=
  ['\n'].intercalate ((cs.splitOn '\n').map change)

/-- What stands on a line before its first two slashes. -/
def cutLine (line : List Char) : List Char :=
  match cutAt? ['/', '/'] line with
  | some (front, _) => front
  | none => line

/-- Whether the last quote before a place on a line opens a text and the text is closed behind the place. -/
def withinQuotes (front back : List Char) : Bool := front.count '"' % 2 == 1 && back.contains '"'

/-- What stands on a line before its first two slashes that are not within quotes; `front` is what stands on
    the line before the text. -/
def cutUnquoted (front : List Char) : List Char → List Char
  | [] => []
  | c :: rest =>
      if c = '/' ∧ rest.head? = some '/' ∧ withinQuotes front rest = false then []
      else c :: cutUnquoted (front ++ [c]) rest

/-- The script without comments, on one line, if slashes within quotes start no comment. -/
def stripUnquoted (script : String) : String :=
  String.ofList (foldBreaks false (overLines (cutUnquoted []) script.toList))

/-- The script with another text for each of its line feeds. -/
def withLineEnds (lineEnd script : String) : String :=
  String.ofList (replaceAll ['\n'] lineEnd.toList script.toList)

end PromptCanvas.Script
