import PromptCanvas.Text.Blank
import PromptCanvas.Text.Search
import PromptCanvas.Text.Word

set_option autoImplicit false

/-! # Blocks of a script

A flattened script holds blocks among text of any kind:

    create KIND "NAME" { PROPERTIES }
    set KIND "NAME" { PROPERTIES }        (the name may be missing)

and a body holds properties `LABEL: "TEXT"`, whose label may be missing. Blocks and properties are
recognised wherever they stand; text that is neither is passed over. Every recogniser reads the start
of a text and gives back what follows the part it recognised, and `scan` finds all parts from left to
right, each after the end of the one before. -/

namespace PromptCanvas.Script

open Text

/-! ## Scanning -/

/-- Everything that `recognise` finds in a text, from left to right. The recogniser also learns whether
    a word character precedes the text; `skip` characters still belong to the part found last. -/
def scan {α : Type} (recognise : (afterWord : Bool) → List Char → Option (α × List Char)) :
    (skip : Nat) → (afterWord : Bool) → List Char → List α
  | _, _, [] => []
  | skip + 1, _, c :: rest => scan recognise skip (isWord c) rest
  | 0, afterWord, c :: rest =>
      match recognise afterWord (c :: rest) with
      | some (found, left) =>
          found :: scan recognise (rest.length - left.length) (isWord c) rest
      | none => scan recognise 0 (isWord c) rest

/-- Everything that `recognise` finds in a whole text. -/
def scanAll {α : Type} (recognise : (afterWord : Bool) → List Char → Option (α × List Char))
    (cs : List Char) : List α := scan recognise 0 false cs

/-! ## Tokens -/

/-- At least one character of white space. -/
def blanks? : List Char → Option (List Char)
  | [] => none
  | c :: rest => if isBlank c then some (trimStart rest) else none

/-- A run of word characters, at least one. -/
def wordRun? (cs : List Char) : Option (List Char × List Char) :=
  match cs.takeWhile isWord with
  | [] => none
  | word => some (word, cs.dropWhile isWord)

/-- A text up to `close`, at least one character long. -/
def upTo? (close : Char) (cs : List Char) : Option (List Char × List Char) :=
  match cs.takeWhile (· ≠ close), cs.dropWhile (· ≠ close) with
  | [], _ => none
  | _ :: _, [] => none
  | inner, _ :: rest => some (inner, rest)

/-- A quoted text that is not empty and holds no quote. -/
def quoted? : List Char → Option (List Char × List Char)
  | '"' :: rest => upTo? '"' rest
  | _ => none

/-- A body in braces that is not empty and holds no closing brace. -/
def braced? : List Char → Option (List Char × List Char)
  | '{' :: rest => upTo? '}' rest
  | _ => none

/-! ## Properties -/

/-- A property of a block. A missing label is the empty text. -/
structure Property where
  label : String
  text : String
deriving DecidableEq, Repr, Inhabited

/-- A colon, white space and a quoted text. -/
def propertyText? : List Char → Option (List Char × List Char)
  | ':' :: rest => quoted? (trimStart rest)
  | _ => none

/-- A property at the start of a text. -/
def property? (_afterWord : Bool) (cs : List Char) : Option (Property × List Char) :=
  match wordRun? cs with
  | some (label, rest) =>
      (propertyText? (trimStart rest)).map fun part =>
        (⟨String.ofList label, String.ofList part.1⟩, part.2)
  | none => (propertyText? cs).map fun part => (⟨"", String.ofList part.1⟩, part.2)

/-- The properties in a body. -/
def properties (body : List Char) : List Property := scanAll property? body

/-! ## Blocks -/

/-- A `create` block: the subject of a script. -/
structure Subject where
  kind : String
  name : String
  properties : List Property
deriving DecidableEq, Repr, Inhabited

/-- A `set` block of any kind. -/
structure Setting where
  kind : String
  name : Option String
  properties : List Property
deriving DecidableEq, Repr, Inhabited

/-- A word that a block starts with: it follows no word character. -/
def keyword? (word : String) (afterWord : Bool) (cs : List Char) : Option (List Char) :=
  if afterWord then none else after? word.toList cs

/-- A `create` block at the start of a text. -/
def subject? (afterWord : Bool) (cs : List Char) : Option (Subject × List Char) := do
  let cs ← keyword? "create" afterWord cs
  let (kind, cs) ← wordRun? (← blanks? cs)
  let (name, cs) ← quoted? (← blanks? cs)
  let (body, cs) ← braced? (trimStart cs)
  some (⟨String.ofList kind, String.ofList name, Script.properties body⟩, cs)

/-- The name of a `set` block: white space and a quoted text, or nothing. -/
def settingName (cs : List Char) : Option (List Char) × List Char :=
  match (blanks? cs).bind quoted? with
  | some (name, rest) => (some name, rest)
  | none => (none, cs)

/-- A `set` block at the start of a text. -/
def setting? (afterWord : Bool) (cs : List Char) : Option (Setting × List Char) := do
  let cs ← keyword? "set" afterWord cs
  let (kind, cs) ← wordRun? (← blanks? cs)
  let (name, cs) := settingName cs
  let (body, cs) ← braced? (trimStart cs)
  some (⟨String.ofList kind, name.map String.ofList, Script.properties body⟩, cs)

end PromptCanvas.Script
