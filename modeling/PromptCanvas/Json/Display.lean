import PromptCanvas.Decimal.Shortest
import PromptCanvas.Json.Basic
import PromptCanvas.Text.Quoted

set_option autoImplicit false

/-! # Values in messages

Messages show values in a form of their own: null is `None`, truth values are capitalised, texts stand
in the quotes of `Text.quoted`, and items are separated by a comma and a space. -/

namespace PromptCanvas.Json

open Text

/-- One symbol as a text in the given quotes shows it; half a pair is shown by its number. -/
def quotedSymbol (quote : Char) : Symbol → List Char
  | .char c => quotedChar quote c
  | .half unit => '\\' :: 'u' :: hexDigits 4 unit

/-- A torn text in quotes. -/
def quotedTorn (symbols : List Symbol) : String :=
  let quote := quoteFor (symbols.filterMap Symbol.char?)
  String.ofList (quote :: symbols.flatMap (quotedSymbol quote) ++ [quote])

/-- A name in quotes. -/
def quotedName : Writing → String
  | .whole s => quoted s
  | .torn symbols => quotedTorn symbols

/-- Names in quotes, between brackets. -/
def quotedNames (names : List Writing) : String :=
  "[" ++ ", ".intercalate (names.map quotedName) ++ "]"

mutual

/-- A value as a message shows it. -/
def display : Json → String
  | .null => "None"
  | .bool b => if b then "True" else "False"
  | .int n => integerText n
  | .float x => Decimal.plainLayout.render x
  | .str s => quoted s
  | .torn symbols => quotedTorn symbols
  | .arr items => "[" ++ displayItems items ++ "]"
  | .obj fields => "\x7b" ++ displayFields fields ++ "\x7d"

/-- Items with a comma and a space between them. -/
def displayItems : List Json → String
  | [] => ""
  | [item] => display item
  | item :: next :: rest => display item ++ ", " ++ displayItems (next :: rest)

/-- Fields with a comma and a space between them. -/
def displayFields : Fields → String
  | [] => ""
  | [(name, value)] => quotedName name ++ ": " ++ display value
  | (name, value) :: next :: rest =>
      quotedName name ++ ": " ++ display value ++ ", " ++ displayFields (next :: rest)

end

/-- The name of a value's type in messages. -/
def typeName : Json → String
  | .null => "NoneType"
  | .bool _ => "bool"
  | .int _ => "int"
  | .float _ => "float"
  | .str _ | .torn _ => "str"
  | .arr _ => "list"
  | .obj _ => "dict"

/-- A value inside a sentence: a text as it is, anything else as `display` shows it. -/
def writing : Json → Writing
  | .str s => s
  | .torn symbols => .torn symbols
  | value => value.display

end PromptCanvas.Json
