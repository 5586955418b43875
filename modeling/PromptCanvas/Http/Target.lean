import PromptCanvas.Text.Numeral
import PromptCanvas.Text.Search

set_option autoImplicit false

/-! # Request targets

The target of a request is a path and an optional query after a question mark. The path is taken as it
is; the query may hold characters written as a percent sign and two hexadecimal digits. -/

namespace PromptCanvas.Http

open Text

/-- The bytes of a text in which escaped bytes are written out. -/
def unescapedBytes : List Char → List UInt8
  | [] => []
  | '%' :: a :: b :: rest =>
      match hexValue? a, hexValue? b with
      | some high, some low => UInt8.ofNat (16 * high + low) :: unescapedBytes rest
      | _, _ => '%'.toString.toUTF8.toList ++ unescapedBytes (a :: b :: rest)
  | c :: rest => c.toString.toUTF8.toList ++ unescapedBytes rest

/-- A text in which escaped characters are written out. A text that would not be one is left as it
    is. -/
def unescaped (cs : List Char) : List Char :=
  if '%' ∈ cs then
    match String.fromUTF8? (ByteArray.mk (unescapedBytes cs).toArray) with
    | some s => s.toList
    | none => cs
  else cs

/-- The path and the query of a target. -/
def splitTarget (target : List Char) : List Char × List Char :=
  (cutAt? ['?'] target).getD (target, [])

/-- The segments of a path, if it starts with a slash. -/
def segments? : List Char → Option (List String)
  | '/' :: rest => some ((rest.splitOn '/').map String.ofList)
  | _ => none

/-- A part of a query, in which a plus sign stands for a space. -/
def queryText (cs : List Char) : String :=
  String.ofList (unescaped (cs.map fun c => if c = '+' then ' ' else c))

/-- The parameters of a query, in order. -/
def parameters (query : List Char) : List (String × String) :=
  ((query.splitOn '&').filter (· ≠ [])).map fun part =>
    let (name, value) := (cutAt? ['='] part).getD (part, [])
    (queryText name, queryText value)

/-- The value of a parameter; of several the last one. -/
def parameter? (query : List Char) (name : String) : Option String :=
  ((parameters query).reverse.find? fun entry => entry.1 == name).map Prod.snd

end PromptCanvas.Http
