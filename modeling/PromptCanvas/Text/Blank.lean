import PromptCanvas.Text.Ranges

set_option autoImplicit false

/-! # White space

Scripts, prompts and numbers are trimmed of the 29 characters that Unicode counts as white space or
as separators of paragraphs, segments, lines and fields. The zero-width space and the byte order
mark are not among them. -/

namespace PromptCanvas.Text

/-- The code points of white space. -/
def blankRanges : Ranges :=
  [(0x9, 0xD), (0x1C, 0x20), (0x85, 0x85), (0xA0, 0xA0), (0x1680, 0x1680), (0x2000, 0x200A),
    (0x2028, 0x2029), (0x202F, 0x202F), (0x205F, 0x205F), (0x3000, 0x3000)]

/-- A character of white space. -/
def isBlank (c : Char) : Bool := blankRanges.has c

/-- The text without the white space it starts with. -/
def trimStart (cs : List Char) : List Char := cs.dropWhile isBlank

/-- The text without the white space it ends with. -/
def trimEnd (cs : List Char) : List Char := (cs.reverse.dropWhile isBlank).reverse

/-- The text without the white space around it. -/
def trim (cs : List Char) : List Char := trimEnd (trimStart cs)

/-- The string without the white space around it. -/
def trimmed (s : String) : String := String.ofList (trim s.toList)

/-- A string of white space only, the empty one included. -/
def blank (s : String) : Bool := s.toList.all isBlank

end PromptCanvas.Text
