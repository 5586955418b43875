import PromptCanvas.Decimal.Shortest
import PromptCanvas.Json.Basic
import PromptCanvas.Text.Numeral

set_option autoImplicit false

/-! # Writing JSON

A value is written without spaces, in ASCII: every other character is escaped, as one unit of four
hexadecimal digits or as a pair of them. -/

namespace PromptCanvas.Json

open Text

/-- One escaped unit. -/
def unitText (n : Nat) : List Char := '\\' :: 'u' :: hexDigits 4 n

/-- One character inside a text. -/
def writtenChar (c : Char) : List Char :=
  if c = '"' ∨ c = '\\' then ['\\', c]
  else if 0x20 ≤ c.toNat ∧ c.toNat < 0x7F then [c]
  else if c.toNat < 0x10000 then unitText c.toNat
  else
    let n := c.toNat - 0x10000
    unitText (0xD800 + n / 0x400) ++ unitText (0xDC00 + n % 0x400)

/-- A text in its quotes. -/
def writtenText (s : String) : String :=
  String.ofList ('"' :: s.toList.flatMap writtenChar ++ ['"'])

/-- One symbol inside a text; half a pair is one escaped unit. -/
def writtenSymbol : Symbol → List Char
  | .char c => writtenChar c
  | .half unit => unitText unit

/-- A torn text in its quotes. -/
def writtenTorn (symbols : List Symbol) : String :=
  String.ofList ('"' :: symbols.flatMap writtenSymbol ++ ['"'])

/-- A name in its quotes. -/
def writtenName : Writing → String
  | .whole s => writtenText s
  | .torn symbols => writtenTorn symbols

mutual

/-- The written form of a value. -/
def write : Json → String
  | .null => "null"
  | .bool b => if b then "true" else "false"
  | .int n => integerText n
  | .float x => Decimal.plainLayout.render x
  | .str s => writtenText s
  | .torn symbols => writtenTorn symbols
  | .arr items => "[" ++ writeItems items ++ "]"
  | .obj fields => "\x7b" ++ writeFields fields ++ "\x7d"

/-- Values with commas between them. -/
def writeItems : List Json → String
  | [] => ""
  | [item] => write item
  | item :: next :: rest => write item ++ "," ++ writeItems (next :: rest)

/-- Fields with commas between them. -/
def writeFields : Fields → String
  | [] => ""
  | [(name, value)] => writtenName name ++ ":" ++ write value
  | (name, value) :: next :: rest =>
      writtenName name ++ ":" ++ write value ++ "," ++ writeFields (next :: rest)

end

end PromptCanvas.Json
