import PromptCanvas.Text.Numeral
import PromptCanvas.Text.Printable
import PromptCanvas.Text.Search

set_option autoImplicit false

/-! # Quoted texts

Messages quote the texts they speak of. The quote is an apostrophe, unless the text holds an
apostrophe and no double quote. The backslash, the quote itself and line feed, carriage return and
tab are written after a backslash; a character that is not printable is written by its number. -/

namespace PromptCanvas.Text

/-- The quote put around a text. -/
def quoteFor (cs : List Char) : Char :=
  if '\'' ∈ cs ∧ '"' ∉ cs then '"' else '\''

/-- A character by its number, in two, four or eight hexadecimal digits. -/
def numbered (c : Char) : List Char :=
  if c.toNat < 0x100 then '\\' :: 'x' :: hexDigits 2 c.toNat
  else if c.toNat < 0x10000 then '\\' :: 'u' :: hexDigits 4 c.toNat
  else '\\' :: 'U' :: hexDigits 8 c.toNat

/-- One character as a text in the given quotes shows it. -/
def quotedChar (quote c : Char) : List Char :=
  if c = quote ∨ c = '\\' then ['\\', c]
  else if c = '\n' then ['\\', 'n']
  else if c = '\r' then ['\\', 'r']
  else if c = '\t' then ['\\', 't']
  else if isPrintable c then [c]
  else numbered c

/-- A text in quotes. -/
def quoted (s : String) : String :=
  let quote := quoteFor s.toList
  String.ofList (quote :: s.toList.flatMap (quotedChar quote) ++ [quote])

/-- Texts in quotes, between brackets. -/
def quotedList (texts : List String) : String :=
  "[" ++ ", ".intercalate (texts.map quoted) ++ "]"

end PromptCanvas.Text
