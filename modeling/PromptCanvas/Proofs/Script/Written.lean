import PromptCanvas.Proofs.Script.Legible

set_option autoImplicit false

/-! # Written scripts are read back

What is read from a written script is what its blocks say: writing is one layout of them, in which all of
them are legible. -/

namespace PromptCanvas.Script

open Text

/-! ## The layout of written scripts -/

/-- No white space. -/
def noSpace : Space := ⟨[], by simp⟩

/-- One space. -/
def oneSpace : Space := ⟨[' '], List.forall_mem_singleton.2 (by decide)⟩

/-- The end of a line. -/
def newline : Space := ⟨['\n'], List.forall_mem_singleton.2 (by decide)⟩

/-- The layout in which an entry is written. -/
def Entry.laid (entry : Entry) : LaidEntry := ⟨entry, oneSpace, noSpace, oneSpace, noSpace⟩

/-- What a block says before its body. -/
def Block.heading : Block → Heading
  | .create kind name _ => .create kind name
  | .set kind name _ => .set kind name

/-- The layout in which a block is written, behind the given white space. -/
def Block.laid (beforeKeyword : Space) (block : Block) : LaidBlock where
  heading := block.heading
  beforeKeyword := beforeKeyword
  beforeKind := oneSpace
  beforeName := oneSpace
  beforeBrace := oneSpace
  entries := block.entries.map Entry.laid
  apart := List.cons_ne_nil _ _
  beforeEnd := oneSpace

namespace Block

variable (beforeKeyword : Space) (block : Block)

theorem block_laid : (block.laid beforeKeyword).block = block := by
  have hentries : (block.entries.map Entry.laid).map LaidEntry.entry = block.entries := by
    simp [Entry.laid, Function.comp_def]
  have hblock : block.heading.block block.entries = block := by cases block <;> rfl
  exact (congrArg block.heading.block hentries).trans hblock

theorem legible_laid : (block.laid beforeKeyword).legible = true := by
  simp [LaidBlock.legible, OpenBlock.titled, LaidBlock.filled, Block.laid, oneSpace]

theorem toList_inQuotes (phrase : Phrase) :
    (inQuotes phrase).toList = '"' :: (phrase.text.toList ++ ['"']) := by
  simp [inQuotes]

/-- The space behind an entry is the space before the next one. -/
theorem toList_concat_render (entries : List Entry) :
    ' ' :: (String.join (entries.map Entry.render)).toList
      = (entries.map Entry.laid).flatMap LaidEntry.chars ++ [' '] := by
  induction entries with
  | nil => rfl
  | cons entry entries ih =>
      have hentry : ' ' :: entry.render.toList = entry.laid.chars ++ [' '] := by
        simp [Entry.render, Entry.laid, LaidEntry.chars, toList_inQuotes, oneSpace, noSpace]
      rw [List.map_cons, List.map_cons, String.join_cons, String.toList_append, List.flatMap_cons, List.append_assoc,
        ← ih, ← List.cons_append, hentry, List.append_assoc]
      rfl

theorem titleChars_laid : (block.laid beforeKeyword).titleChars = (renderTitle block.name?).toList := by
  cases block with
  | create kind name entries => simp [OpenBlock.titleChars, laid, heading, Heading.name?, name?, renderTitle,
      toList_inQuotes, oneSpace]
  | set kind name entries =>
      cases name <;> simp [OpenBlock.titleChars, laid, heading, Heading.name?, name?, renderTitle,
        toList_inQuotes, oneSpace]

theorem chars_laid : (block.laid beforeKeyword).chars = beforeKeyword.chars ++ block.render.toList := by
  have hkeyword : block.heading.keyword = block.keyword := by cases block <;> rfl
  have hkind : block.heading.kind = block.kind := by cases block <;> rfl
  calc (block.laid beforeKeyword).chars
      = beforeKeyword.chars ++ (block.keyword.toList ++ (' ' :: (block.kind.text.toList
          ++ ((renderTitle block.name?).toList ++ (' ' :: '{'
            :: ((block.entries.map Entry.laid).flatMap LaidEntry.chars ++ [' '] ++ ['}'])))))) := by
        rw [← titleChars_laid beforeKeyword block, ← hkeyword, ← hkind]
        simp [LaidBlock.chars, LaidBlock.innerChars, OpenBlock.chars, OpenBlock.headChars,
          OpenBlock.bodyChars, laid, oneSpace]
    _ = beforeKeyword.chars ++ block.render.toList := by
        rw [← toList_concat_render]
        simp [render]

end Block

/-- The layout in which blocks are written: one on each line. -/
def laidLines : List Block → List LaidBlock
  | [] => []
  | block :: blocks => block.laid noSpace :: blocks.map (Block.laid newline)

theorem legibleBlocks_laidLines (blocks : List Block) : legibleBlocks (laidLines blocks) = blocks := by
  have hlines : ∀ blocks : List Block, legibleBlocks (blocks.map (Block.laid newline)) = blocks := by
    intro blocks
    induction blocks with
    | nil => rfl
    | cons block blocks ih =>
        rw [List.map_cons, legibleBlocks_cons, if_pos (block.legible_laid newline), ih, block.block_laid]
  cases blocks with
  | nil => rfl
  | cons block blocks =>
      rw [laidLines, legibleBlocks_cons, if_pos (block.legible_laid noSpace), hlines, block.block_laid]

/-- Writing blocks is laying them out, one on each line. -/
theorem render_eq_layOut (blocks : List Block) : render blocks = layOut (laidLines blocks) noSpace := by
  rw [layOut, ← String.toList_inj, String.toList_ofList]
  cases blocks with
  | nil => rfl
  | cons block blocks =>
      rw [render, List.map_cons, toList_intercalate_cons]
      simp [laidLines, List.flatMap_map, Block.chars_laid, noSpace, newline]

theorem ofScript_render_eq (blocks : List Block) :
    Outline.ofScript (render blocks)
      = Outline.ofBlocks (blocks.filterMap Block.subject?) (blocks.filterMap Block.setting?) := by
  rw [render_eq_layOut, ofScript_layOut_eq, legibleBlocks_laidLines, Outline.ofWritten]

/-- A written script says what its blocks say: the subject is the first `create` block, the other ones are
    counted, a part gathers the properties of all `set` blocks of its kind in their order, the scene has the
    first and the last of its names, and `set` blocks of other kinds say nothing. -/
theorem ofScript_render (blocks : List Block) :
    let outline := Outline.ofScript (render blocks)
    let settings := blocks.filterMap Block.setting?
    let ofPart := fun part : Part => settings.filter fun setting => setting.kind = part.word
    outline.subject = (blocks.filterMap Block.subject?).head? ∧
      outline.ignoredSubjects = (blocks.filterMap Block.subject?).length - 1 ∧
      (∀ part, (outline.group part).properties = (ofPart part).flatMap Setting.properties) ∧
      outline.scene.firstName = ((ofPart .scene).filterMap Setting.name).head? ∧
      outline.scene.name = ((ofPart .scene).filterMap Setting.name).getLast? ∧
      (∀ part, part ≠ .scene → (outline.group part).firstName = none ∧ (outline.group part).name = none) := by
  intro outline settings ofPart
  have houtline : outline = Outline.ofBlocks (blocks.filterMap Block.subject?) settings :=
    ofScript_render_eq blocks
  obtain ⟨hsubject, hignored⟩ := Outline.subject_ofBlocks (blocks.filterMap Block.subject?) settings
  obtain ⟨hfirst, hlast⟩ := Outline.scene_ofBlocks (blocks.filterMap Block.subject?) settings
  rw [houtline]
  exact ⟨hsubject, hignored, Outline.properties_ofBlocks _ _, hfirst, hlast,
    fun part hpart => Outline.names_ofBlocks_of_ne_scene _ _ hpart⟩

end PromptCanvas.Script
