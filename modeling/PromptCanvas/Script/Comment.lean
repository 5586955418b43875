set_option autoImplicit false

/-! # Comments and line breaks of a script

A comment starts with two slashes and runs to the next line feed, wherever it starts. What is left is
folded onto a single line: every run of carriage returns and line feeds becomes one space. -/

namespace PromptCanvas.Script

/-- The script without its comments; `inside` says whether the text starts within one. -/
def cutComments : (inside : Bool) → List Char → List Char
  | _, [] => []
  | true, c :: rest => if c = '\n' then c :: cutComments false rest else cutComments true rest
  | false, c :: rest =>
      if c = '/' ∧ rest.head? = some '/' then cutComments true rest
      else c :: cutComments false rest

/-- A character that ends a line. -/
def isBreak (c : Char) : Bool := c == '\r' || c == '\n'

/-- The script on one line; `folding` says whether a line break precedes the text. -/
def foldBreaks : (folding : Bool) → List Char → List Char
  | _, [] => []
  | folding, c :: rest =>
      if isBreak c then
        if folding then foldBreaks true rest else ' ' :: foldBreaks true rest
      else c :: foldBreaks false rest

/-- The script without comments, on one line. -/
def flatten (cs : List Char) : List Char := foldBreaks false (cutComments false cs)

/-- The script without comments, on one line. -/
def stripComments (script : String) : String := String.ofList (flatten script.toList)

end PromptCanvas.Script
