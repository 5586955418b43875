import PromptCanvas.Script.Block

set_option autoImplicit false

/-! # Written scripts

A script can be written from blocks: one block on each line, a body in braces, and a semicolon after each
property. The parts of a block are texts that can stand where they are written, so that every list of
blocks makes a script. -/

namespace PromptCanvas.Script

open Text

/-- A run of word characters: a kind or a label. -/
structure Word where
  text : String
  nonempty : text ≠ ""
  plain : ∀ c ∈ text.toList, isWord c = true

/-- A text that can stand in quotes: a name or a value. It holds no quote, no brace, no line break and no
    start of a comment. -/
structure Phrase where
  text : String
  nonempty : text ≠ ""
  plain : ∀ c ∈ text.toList, c ∉ ['"', '{', '}', '\r', '\n']
  uncommented : ¬ ['/', '/'] <:+: text.toList

/-- A property to be written. -/
structure Entry where
  label : Word
  text : Phrase

/-- The property that an entry writes. -/
def Entry.property (entry : Entry) : Property := ⟨entry.label.text, entry.text.text⟩

/-- A block to be written. -/
inductive Block where
  | create (kind : Word) (name : Phrase) (entries : List Entry)
  | set (kind : Word) (name : Option Phrase) (entries : List Entry)

namespace Block

/-- The word that a block starts with. -/
def keyword : Block → String
  | create _ _ _ => "create"
  | set _ _ _ => "set"

/-- The kind of a block. -/
def kind : Block → Word
  | create kind _ _ => kind
  | set kind _ _ => kind

/-- The name of a block, if it has one. -/
def name? : Block → Option Phrase
  | create _ name _ => some name
  | set _ name _ => name

/-- The properties of a block. -/
def entries : Block → List Entry
  | create _ _ entries => entries
  | set _ _ entries => entries

/-- The subject that a `create` block writes. -/
def subject? : Block → Option Subject
  | create kind name entries => some ⟨kind.text, name.text, entries.map Entry.property⟩
  | set _ _ _ => none

/-- The setting that a `set` block writes. -/
def setting? : Block → Option Setting
  | create _ _ _ => none
  | set kind name entries => some ⟨kind.text, name.map Phrase.text, entries.map Entry.property⟩

end Block

/-! ## Writing -/

/-- A text in quotes, as it is. -/
def inQuotes (phrase : Phrase) : String := "\"" ++ phrase.text ++ "\""

/-- An entry in a body. -/
def Entry.render (entry : Entry) : String :=
  entry.label.text ++ ": " ++ inQuotes entry.text ++ "; "

/-- The title of a block: its name, or nothing. -/
def renderTitle : Option Phrase → String
  | some name => " " ++ inQuotes name
  | none => ""

/-- A block on one line. A body without properties still holds a space. -/
def Block.render (block : Block) : String :=
  block.keyword ++ " " ++ block.kind.text ++ renderTitle block.name? ++ " \x7b "
    ++ String.join (block.entries.map Entry.render) ++ "\x7d"

/-- A script of blocks, one on each line. -/
def render (blocks : List Block) : String := "\n".intercalate (blocks.map Block.render)

end PromptCanvas.Script
