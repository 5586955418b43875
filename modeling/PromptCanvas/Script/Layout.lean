import PromptCanvas.Script.Outline
import PromptCanvas.Script.Written

set_option autoImplicit false

/-! # Layouts of scripts

The blocks of a script can be laid out with white space of any kind and amount before each of their tokens:
words, marks and quoted texts. Only the kind must be set apart from the keyword before it. A block is legible
if its name is set apart from its kind too, and if its braces hold something, be it a space. -/

namespace PromptCanvas.Script

open Text

/-- White space before a token, or none. -/
structure Space where
  chars : List Char
  blank : ∀ c ∈ chars, isBlank c = true

/-- What a block says before its body. -/
inductive Heading where
  | create (kind : Word) (name : Phrase)
  | set (kind : Word) (name : Option Phrase)

namespace Heading

/-- The block with a heading and a body. -/
def block : Heading → List Entry → Block
  | create kind name, entries => .create kind name entries
  | set kind name, entries => .set kind name entries

/-- The word that the heading starts with. -/
def keyword : Heading → String
  | create _ _ => "create"
  | set _ _ => "set"

/-- The kind of the block. -/
def kind : Heading → Word
  | create kind _ => kind
  | set kind _ => kind

/-- The name of the block, if it has one. -/
def name? : Heading → Option Phrase
  | create _ name => some name
  | set _ name => name

/-- The subject with a heading and properties. -/
def subject? : Heading → List Property → Option Subject
  | create kind name, properties => some ⟨kind.text, name.text, properties⟩
  | set _ _, _ => none

/-- The setting with a heading and properties. -/
def setting? : Heading → List Property → Option Setting
  | create _ _, _ => none
  | set kind name, properties => some ⟨kind.text, name.map Phrase.text, properties⟩

end Heading

/-- An entry with the white space before each of its tokens. -/
structure LaidEntry where
  entry : Entry
  beforeLabel : Space
  beforeColon : Space
  beforeText : Space
  beforeSemicolon : Space

/-- The text of an entry. -/
def LaidEntry.chars (laid : LaidEntry) : List Char :=
  laid.beforeLabel.chars ++ (laid.entry.label.text.toList
    ++ (laid.beforeColon.chars ++ ':'
      :: (laid.beforeText.chars ++ '"' :: (laid.entry.text.text.toList ++ '"'
        :: (laid.beforeSemicolon.chars ++ [';'])))))

/-- A block that is opened and not closed, with the white space before each of its tokens. -/
structure OpenBlock where
  heading : Heading
  beforeKeyword : Space
  beforeKind : Space
  /-- Without a name there is no such place. -/
  beforeName : Space
  beforeBrace : Space
  entries : List LaidEntry
  apart : beforeKind.chars ≠ []

namespace OpenBlock

/-- The text of the name, with the white space before it. -/
def titleChars (laid : OpenBlock) : List Char :=
  match laid.heading.name? with
  | some name => laid.beforeName.chars ++ '"' :: (name.text.toList ++ ['"'])
  | none => []

/-- The text of the entries. -/
def bodyChars (laid : OpenBlock) : List Char := laid.entries.flatMap LaidEntry.chars

/-- The text between the keyword and the body. -/
def headChars (laid : OpenBlock) : List Char :=
  laid.beforeKind.chars ++ (laid.heading.kind.text.toList
    ++ (laid.titleChars ++ (laid.beforeBrace.chars ++ ['{'])))

/-- The text of the block, up to its last entry. -/
def chars (laid : OpenBlock) : List Char :=
  laid.beforeKeyword.chars ++ (laid.heading.keyword.toList ++ (laid.headChars ++ laid.bodyChars))

/-- The properties that the entries write. -/
def properties (laid : OpenBlock) : List Property := laid.entries.map fun entry => entry.entry.property

/-- Whether a name is set apart from the kind. -/
def titled (laid : OpenBlock) : Bool := laid.heading.name?.isNone || !laid.beforeName.chars.isEmpty

end OpenBlock

/-- A block with the white space before each of its tokens. -/
structure LaidBlock extends OpenBlock where
  beforeEnd : Space

namespace LaidBlock

/-- The text before the closing brace. -/
def innerChars (laid : LaidBlock) : List Char := laid.toOpenBlock.chars ++ laid.beforeEnd.chars

/-- The text of the block. -/
def chars (laid : LaidBlock) : List Char := laid.innerChars ++ ['}']

/-- The properties that are read before the closing brace. -/
def innerProperties (laid : LaidBlock) : List Property := Script.properties (flatten laid.innerChars)

/-- The block that is laid out. -/
def block (laid : LaidBlock) : Block := laid.heading.block (laid.entries.map LaidEntry.entry)

/-- Whether the braces hold something. -/
def filled (laid : LaidBlock) : Bool := !(laid.entries.isEmpty && laid.beforeEnd.chars.isEmpty)

/-- Whether the block is recognised for what it is. -/
def legible (laid : LaidBlock) : Bool := laid.titled && laid.filled

end LaidBlock

/-- The script that lays out blocks, with white space at its end. -/
def layOut (document : List LaidBlock) (atEnd : Space) : String :=
  String.ofList (document.flatMap LaidBlock.chars ++ atEnd.chars)

/-- The script that lays out blocks and among them one that is not closed. -/
def layOutOpen (before : List LaidBlock) (unclosed : OpenBlock) (after : List LaidBlock) (atEnd : Space) :
    String :=
  String.ofList (before.flatMap LaidBlock.chars
    ++ (unclosed.chars ++ (after.flatMap LaidBlock.chars ++ atEnd.chars)))

/-- The legible blocks of a document. -/
def legibleBlocks (document : List LaidBlock) : List Block :=
  (document.filter LaidBlock.legible).map LaidBlock.block

/-- The subjects among the legible blocks of a document. -/
def subjects (document : List LaidBlock) : List Subject := (legibleBlocks document).filterMap Block.subject?

/-- The settings among the legible blocks of a document. -/
def settings (document : List LaidBlock) : List Setting := (legibleBlocks document).filterMap Block.setting?

/-- What blocks say. -/
def Outline.ofWritten (blocks : List Block) : Outline :=
  ofBlocks (blocks.filterMap Block.subject?) (blocks.filterMap Block.setting?)

end PromptCanvas.Script
