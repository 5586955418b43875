import PromptCanvas.Proofs.Script.Folding
import PromptCanvas.Proofs.Script.Layout
import PromptCanvas.Proofs.Script.Outline
import PromptCanvas.Proofs.Script.Property

set_option autoImplicit false

/-! # Laid out scripts are read

However the blocks of a script are laid out, what is read is what the legible ones say. So the layout says
nothing: two layouts of the same blocks in which all of them are legible are read alike. -/

namespace PromptCanvas.Script

open Text

variable {rest : List Char}

/-! ## Properties -/

theorem endsInWord_marks {piece : List Char} (h : ∀ c ∈ piece, isWord c = false) :
    endsInWord false piece = false := by
  unfold endsInWord
  cases hlast : piece.getLast? with
  | none => rfl
  | some c => exact h c (List.mem_of_getLast? hlast)

theorem endsInWord_append (afterWord : Bool) (piece piece' : List Char) :
    endsInWord afterWord (piece ++ piece') = endsInWord (endsInWord afterWord piece) piece' := by
  induction piece generalizing afterWord with
  | nil => rfl
  | cons c piece ih => rw [List.cons_append, endsInWord_cons, ih, endsInWord_cons]

theorem OpenBlock.endsInWord_chars (laid : OpenBlock) : endsInWord false laid.chars = false := by
  have hhead : endsInWord false (laid.beforeKeyword.chars ++ (laid.heading.keyword.toList ++ laid.headChars))
      = false := by
    simp only [OpenBlock.headChars, ← List.append_assoc, endsInWord_concat]
    decide
  have hbody : endsInWord false laid.bodyChars = false := by
    unfold OpenBlock.bodyChars
    induction laid.entries with
    | nil => rfl
    | cons entry entries ih =>
        have hentry : endsInWord false entry.chars = false := by
          simp [endsInWord, LaidEntry.chars, List.getLast?_cons, (by decide : isWord ';' = false)]
        rw [List.flatMap_cons, endsInWord_append, hentry, ih]
  have hsplit : laid.chars = laid.beforeKeyword.chars ++ (laid.heading.keyword.toList ++ laid.headChars)
      ++ laid.bodyChars := by
    simp [OpenBlock.chars]
  rw [hsplit, endsInWord_append, hhead, hbody]

theorem scan_property_space (space : Space) :
    scan property? 0 false (space.chars ++ rest) = scan property? 0 false rest := by
  rw [scan_idle, endsInWord_marks space.not_isWord]
  intro suffix hne hsuffix afterWord
  obtain ⟨c, tail, rfl⟩ := List.exists_cons_of_ne_nil hne
  have hc := hsuffix.subset List.mem_cons_self
  refine property?_eq_none (space.not_isWord c hc) ?_
  rintro rfl
  exact space.not_mem (by decide) hc

theorem scan_property_entry (laid : LaidEntry) :
    scan property? 0 false (laid.chars ++ rest) = laid.entry.property :: scan property? 0 false rest := by
  have hsplit : laid.chars ++ rest = laid.beforeLabel.chars ++ ((laid.entry.label.text.toList
      ++ (laid.beforeColon.chars ++ ':' :: (laid.beforeText.chars ++ '"'
        :: (laid.entry.text.text.toList ++ ['"']))))
      ++ (laid.beforeSemicolon.chars ++ ';' :: rest)) := by
    simp [LaidEntry.chars]
  have hfound : property? false ((laid.entry.label.text.toList
      ++ (laid.beforeColon.chars ++ ':' :: (laid.beforeText.chars ++ '"'
        :: (laid.entry.text.text.toList ++ ['"']))))
      ++ (laid.beforeSemicolon.chars ++ ';' :: rest))
        = some (laid.entry.property, laid.beforeSemicolon.chars ++ ';' :: rest) :=
    property?_eq_some_iff.2 ⟨_, _ ++ _, _, _, .given laid.entry.label.run laid.beforeColon.blank,
      laid.beforeText.blank, laid.entry.text.inner, by simp, by simp [Entry.property]⟩
  have hend : endsInWord false (laid.entry.label.text.toList
      ++ (laid.beforeColon.chars ++ ':' :: (laid.beforeText.chars ++ '"'
        :: (laid.entry.text.text.toList ++ ['"'])))) = false := by
    simp [endsInWord, List.getLast?_cons, (by decide : isWord '"' = false)]
  rw [hsplit, scan_property_space, scan_part (by simp) hfound, hend, scan_property_space, scan,
    property?_eq_none (by decide) (by decide), (by decide : isWord ';' = false)]

/-- The entries of a block are the first properties of what starts with them. -/
theorem OpenBlock.properties_append (laid : OpenBlock) (more : List Char) :
    Script.properties (laid.bodyChars ++ more) = laid.properties ++ Script.properties more := by
  unfold OpenBlock.bodyChars OpenBlock.properties Script.properties scanAll
  induction laid.entries with
  | nil => rfl
  | cons entry entries ih =>
      rw [List.flatMap_cons, List.append_assoc, scan_property_entry, ih, List.map_cons, List.cons_append]

theorem properties_space (space : Space) : Script.properties space.chars = [] :=
  properties_eq_nil (space.not_mem (by decide))

theorem OpenBlock.brace_not_mem_body (laid : OpenBlock) : '}' ∉ laid.bodyChars := by
  intro hmem
  obtain ⟨entry, _, hentry⟩ := List.mem_flatMap.1 hmem
  have htext : '}' ∉ entry.entry.text.text.toList := entry.entry.text.not_mem (by decide)
  simp [LaidEntry.chars, Space.not_mem, Word.not_mem, htext, (by decide : isBlank '}' = false),
    (by decide : isWord '}' = false)] at hentry

/-! ## Closed blocks -/

namespace LaidBlock

variable (laid : LaidBlock)

theorem inner_of_filled (h : laid.filled = true) : Inner '}' (laid.bodyChars ++ laid.beforeEnd.chars) := by
  refine ⟨fun hnil => ?_, ?_⟩
  · obtain ⟨hbody, hend⟩ := List.append_eq_nil_iff.1 hnil
    have hentries : laid.entries = [] := by
      cases hentries : laid.entries with
      | nil => rfl
      | cons entry entries => simp [OpenBlock.bodyChars, hentries, LaidEntry.chars] at hbody
    simp [filled, hentries, hend] at h
  · rw [List.mem_append, not_or]
    exact ⟨laid.brace_not_mem_body, laid.beforeEnd.not_mem (by decide)⟩

theorem not_inner_of_not_filled (h : laid.filled = false) {inner left : List Char} (hinner : Inner '}' inner) :
    laid.bodyChars ++ (laid.beforeEnd.chars ++ '}' :: rest) ≠ inner ++ '}' :: left := by
  intro heq
  obtain ⟨hentries, hend⟩ : laid.entries = [] ∧ laid.beforeEnd.chars = [] := by simpa [filled] using h
  rw [OpenBlock.bodyChars, hentries, hend, List.flatMap_nil, List.nil_append, List.nil_append] at heq
  obtain ⟨c, inner, rfl⟩ := List.exists_cons_of_ne_nil hinner.1
  obtain rfl := (List.cons.inj heq).1
  exact hinner.2 List.mem_cons_self

end LaidBlock

/-! ## What a document says -/

section

variable {α : Type} (say : Heading → List Property → Option α)

/-- What the legible blocks of a document say. -/
def said (document : List LaidBlock) : List α :=
  (document.filter LaidBlock.legible).filterMap fun laid => say laid.heading laid.properties

theorem said_cons (laid : LaidBlock) (document : List LaidBlock) :
    said say (laid :: document)
      = (if laid.legible then say laid.heading laid.properties else none).toList ++ said say document := by
  unfold said
  rw [List.filter_cons]
  split
  · rw [List.filterMap_cons]
    cases say laid.heading laid.properties <;> rfl
  · rfl

theorem said_append (document document' : List LaidBlock) :
    said say (document ++ document') = said say document ++ said say document' := by
  unfold said
  rw [List.filter_append, List.filterMap_append]

theorem said_fold (document : List LaidBlock) : said say (document.map LaidBlock.fold) = said say document := by
  induction document with
  | nil => rfl
  | cons laid document ih =>
      have hproperties : laid.fold.properties = laid.properties := laid.toOpenBlock.properties_fold
      rw [List.map_cons, said_cons, said_cons, ih, laid.legible_fold, hproperties]
      rfl

end

theorem Space.shut (space : Space) : Shut space.chars := by
  have hshut : Shut (space.chars ++ []) := shut_nil.append (space.not_mem (by decide))
  rwa [List.append_nil] at hshut

/-! ## Reading -/

/-- A recogniser reads the blocks that start with a word: `make` is what it makes of a frame, and `say` is
    what a heading says with the properties of its body. -/
structure Reads {α : Type} (recognise : Bool → List Char → Option (α × List Char)) (word : String)
    (make : List Char → Option (List Char) → List Property → Option α)
    (say : Heading → List Property → Option α) : Prop where
  run : Run word.toList
  recognise_iff : ∀ {afterWord cs part left}, recognise afterWord cs = some (part, left) ↔
    afterWord = false ∧ ∃ kind name body, Framed word kind name body left cs ∧
      make kind name (properties body) = some part
  own : ∀ laid : OpenBlock, laid.heading.keyword = word → ∀ properties,
    make laid.heading.kind.text.toList laid.nameChars properties = say laid.heading properties ∧
      (say laid.heading properties).isSome
  other : ∀ heading : Heading, heading.keyword ≠ word →
    ¬ word.toList <:+ heading.keyword.toList ∧ ∀ properties, say heading properties = none

theorem reads_subject : Reads subject? "create"
    (fun kind name properties => name.map fun name => ⟨String.ofList kind, String.ofList name, properties⟩)
    Heading.subject? where
  run := run_create
  recognise_iff := by
    intro afterWord cs part left
    rw [subject?_eq_some_iff]
    refine and_congr_right fun _ => ⟨?_, ?_⟩
    · rintro ⟨kind, name, body, hframed, rfl⟩
      exact ⟨kind, some name, body, hframed, rfl⟩
    · rintro ⟨kind, name, body, hframed, hpart⟩
      obtain ⟨name, rfl, rfl⟩ := Option.map_eq_some_iff.1 hpart
      exact ⟨kind, name, body, hframed, rfl⟩
  own := by
    intro laid hkeyword properties
    unfold OpenBlock.nameChars
    cases hheading : laid.heading with
    | create kind name => simp [Heading.kind, Heading.name?, Heading.subject?]
    | set kind name =>
        rw [hheading] at hkeyword
        exact absurd hkeyword (by decide : ¬ "set" = "create")
  other := by
    intro heading hkeyword
    cases heading with
    | create kind name => exact absurd rfl hkeyword
    | set kind name => exact ⟨(by decide : ¬ "create".toList <:+ "set".toList), fun _ => rfl⟩

theorem reads_setting : Reads setting? "set"
    (fun kind name properties => some ⟨String.ofList kind, name.map String.ofList, properties⟩)
    Heading.setting? where
  run := run_set
  recognise_iff := by
    intro afterWord cs part left
    rw [setting?_eq_some_iff]
    refine and_congr_right fun _ => ?_
    simp only [Option.some.injEq, eq_comm]
  own := by
    intro laid hkeyword properties
    unfold OpenBlock.nameChars
    cases hheading : laid.heading with
    | create kind name =>
        rw [hheading] at hkeyword
        exact absurd hkeyword (by decide : ¬ "create" = "set")
    | set kind name => cases name <;> simp [Heading.kind, Heading.name?, Heading.setting?]
  other := by
    intro heading hkeyword
    cases heading with
    | create kind name => exact ⟨(by decide : ¬ "set".toList <:+ "create".toList), fun _ => rfl⟩
    | set kind name => exact absurd rfl hkeyword

namespace Reads

variable {α : Type} {recognise : Bool → List Char → Option (α × List Char)} {word : String}
  {make : List Char → Option (List Char) → List Property → Option α}
  {say : Heading → List Property → Option α}

theorem none_of_not_opens (h : Reads recognise word make say) {afterWord : Bool} {cs : List Char}
    (hopens : ¬ Opens word cs) : recognise afterWord cs = none := by
  refine Option.eq_none_iff_forall_ne_some.2 fun found hfound => hopens ?_
  obtain ⟨_, kind, name, body, hframed, _⟩ := h.recognise_iff.1 hfound
  exact ⟨kind, name, body, _, hframed⟩

theorem scan_of_idle (h : Reads recognise word make say) {piece : List Char} (hidle : Idle word piece rest) :
    scan recognise 0 false (piece ++ rest) = scan recognise 0 (endsInWord false piece) rest :=
  scan_idle fun suffix hne hsuffix _ => h.none_of_not_opens (hidle suffix hne hsuffix)

theorem scan_marks (h : Reads recognise word make say) {piece : List Char}
    (hpiece : ∀ c ∈ piece, isWord c = false) :
    scan recognise 0 false (piece ++ rest) = scan recognise 0 false rest := by
  rw [h.scan_of_idle (idle_marks h.run hpiece), endsInWord_marks hpiece]

theorem scan_end (h : Reads recognise word make say) (laid : LaidBlock) :
    scan recognise 0 false (laid.beforeEnd.chars ++ '}' :: rest) = scan recognise 0 false rest := by
  have hsplit : laid.beforeEnd.chars ++ '}' :: rest = (laid.beforeEnd.chars ++ ['}']) ++ rest := by simp
  rw [hsplit, h.scan_marks (laid.beforeEnd.not_isWord_mark (by decide))]

/-- Nothing is found in an opened block that is no frame. -/
theorem scan_unopened (h : Reads recognise word make say) (laid : OpenBlock) (hrest : Shut rest)
    (hopens : laid.heading.keyword = word → laid.titled = true → ∀ inner left, Inner '}' inner →
      laid.bodyChars ++ rest ≠ inner ++ '}' :: left) :
    scan recognise 0 false (laid.chars ++ rest) = scan recognise 0 false rest := by
  have hidle := laid.idle h.run hrest (fun hne => (h.other _ hne).1) hopens
  rw [h.scan_of_idle hidle, laid.endsInWord_chars]

/-- An opened block is found as a frame that ends with the next closing brace. -/
theorem scan_opened (h : Reads recognise word make say) (laid : OpenBlock)
    (hkeyword : laid.heading.keyword = word) (htitled : laid.titled = true) {inner left : List Char}
    (hinner : Inner '}' inner) (hsplit : laid.bodyChars ++ rest = inner ++ '}' :: left) :
    scan recognise 0 false (laid.chars ++ rest)
      = (say laid.heading (Script.properties inner)).toList ++ scan recognise 0 false left := by
  subst hkeyword
  obtain ⟨hmake, hsome⟩ := h.own laid rfl (Script.properties inner)
  obtain ⟨part, hpart⟩ := Option.isSome_iff_exists.1 hsome
  have htext : laid.chars ++ rest = laid.beforeKeyword.chars
      ++ (laid.heading.keyword.toList ++ (laid.headChars ++ (inner ++ ['}'])) ++ left) := by
    simp [OpenBlock.chars, hsplit]
  have hfound : recognise false (laid.heading.keyword.toList ++ (laid.headChars ++ (inner ++ ['}'])) ++ left)
      = some (part, left) := by
    refine h.recognise_iff.2 ⟨rfl, _, _, inner, ?_, hmake.trans hpart⟩
    have hframed := laid.framed_iff.2 ⟨htitled, rfl, rfl, hinner, hsplit⟩
    simpa [hsplit] using hframed
  have hend : endsInWord false (laid.heading.keyword.toList ++ (laid.headChars ++ (inner ++ ['}'])))
      = false := by
    simp only [← List.append_assoc, endsInWord_concat]
    decide
  rw [htext, h.scan_marks laid.beforeKeyword.not_isWord, scan_part (by simp [OpenBlock.headChars]) hfound,
    hend, hpart]
  rfl

/-- What is found in a closed block is what it says, if it is legible. -/
theorem scan_block (h : Reads recognise word make say) (laid : LaidBlock) (hrest : Shut rest) :
    scan recognise 0 false (laid.chars ++ rest)
      = (if laid.legible then say laid.heading laid.properties else none).toList
        ++ scan recognise 0 false rest := by
  have hshut : Shut (laid.beforeEnd.chars ++ '}' :: rest) := laid.shut_end hrest
  rw [laid.chars_append]
  by_cases hlegible : laid.legible = true
  · obtain ⟨htitled, hfilled⟩ := Bool.and_eq_true_iff.1 hlegible
    rw [if_pos hlegible]
    by_cases hkeyword : laid.heading.keyword = word
    · rw [h.scan_opened laid.toOpenBlock hkeyword htitled (laid.inner_of_filled hfilled)
        (List.append_assoc _ _ _).symm, laid.properties_append, properties_space, List.append_nil]
    · have hnone := (h.other _ hkeyword).2 laid.properties
      rw [hnone, h.scan_unopened _ hshut fun hown => absurd hown hkeyword, h.scan_end laid]
      rfl
  · rw [if_neg hlegible, h.scan_unopened _ hshut ?_, h.scan_end laid]
    · rfl
    · -- the body of a block that is not filled would have to start with its end
      intro _ htitled inner left hinner heq
      have hfilled : laid.filled = false := by simpa [LaidBlock.legible, htitled] using hlegible
      exact laid.not_inner_of_not_filled hfilled hinner heq

/-- What is found in a document is what its legible blocks say. -/
theorem scan_document (h : Reads recognise word make say) (document : List LaidBlock) (hrest : Shut rest) :
    scan recognise 0 false (document.flatMap LaidBlock.chars ++ rest)
      = said say document ++ scan recognise 0 false rest := by
  induction document with
  | nil => rfl
  | cons laid document ih =>
      rw [List.flatMap_cons, List.append_assoc, h.scan_block laid (shut_document document hrest), ih, said_cons,
        List.append_assoc]

theorem scan_atEnd (h : Reads recognise word make say) (atEnd : Space) :
    scan recognise 0 false atEnd.chars = [] := by
  have hmarks : scan recognise 0 false (atEnd.chars ++ []) = scan recognise 0 false [] :=
    h.scan_marks atEnd.not_isWord
  rw [List.append_nil] at hmarks
  rw [hmarks, scan]

theorem scan_layOut (h : Reads recognise word make say) (document : List LaidBlock) (atEnd : Space) :
    scanAll recognise (flatten (layOut document atEnd).toList) = said say document := by
  rw [flatten_layOut, scanAll, h.scan_document _ atEnd.fold.shut, h.scan_atEnd, List.append_nil, said_fold]

end Reads

/-! ## Documents -/

theorem LaidBlock.subject?_block (laid : LaidBlock) :
    laid.block.subject? = laid.heading.subject? laid.properties := by
  unfold LaidBlock.block OpenBlock.properties
  cases laid.heading <;> simp [Heading.block, Block.subject?, Heading.subject?]

theorem LaidBlock.setting?_block (laid : LaidBlock) :
    laid.block.setting? = laid.heading.setting? laid.properties := by
  unfold LaidBlock.block OpenBlock.properties
  cases laid.heading <;> simp [Heading.block, Block.setting?, Heading.setting?]

theorem subjects_eq_said (document : List LaidBlock) : subjects document = said Heading.subject? document := by
  unfold subjects legibleBlocks said
  rw [List.filterMap_map]
  exact congrArg (List.filterMap · _) (funext LaidBlock.subject?_block)

theorem settings_eq_said (document : List LaidBlock) : settings document = said Heading.setting? document := by
  unfold settings legibleBlocks said
  rw [List.filterMap_map]
  exact congrArg (List.filterMap · _) (funext LaidBlock.setting?_block)

/-- A laid out script says what its legible blocks say. -/
theorem ofScript_layOut_eq (document : List LaidBlock) (atEnd : Space) :
    Outline.ofScript (layOut document atEnd) = Outline.ofWritten (legibleBlocks document) := by
  rw [Outline.ofScript, Outline.ofFlat, reads_subject.scan_layOut, reads_setting.scan_layOut,
    ← subjects_eq_said, ← settings_eq_said]
  rfl

/-- A laid out script says what its legible blocks say. So where all blocks are legible, the outline is that
    of the blocks, whatever the white space between their tokens. -/
theorem ofScript_layOut (document : List LaidBlock) (atEnd : Space) :
    Outline.ofScript (layOut document atEnd) = Outline.ofWritten (legibleBlocks document) ∧
      ((∀ laid ∈ document, laid.legible = true) →
        Outline.ofScript (layOut document atEnd) = Outline.ofWritten (document.map LaidBlock.block)) := by
  refine ⟨ofScript_layOut_eq document atEnd, fun hlegible => ?_⟩
  rw [ofScript_layOut_eq, legibleBlocks, List.filter_eq_self.2 hlegible]

/-- Two blocks over several lines, with no white space where none is needed. -/
theorem ofScript_layOut_spread :
    let tight : Space := ⟨[], by simp⟩
    let line : Space := ⟨['\r', '\n', '\t'], List.all_eq_true.1 (by decide)⟩
    let bird : LaidBlock :=
      { heading := .create ⟨"bird", by decide, List.all_eq_true.1 (by decide)⟩
          ⟨"crow", by decide, by simp, by decide⟩
        beforeKeyword := tight, beforeKind := line, beforeName := line, beforeBrace := tight
        entries := [⟨⟨⟨"eyes", by decide, List.all_eq_true.1 (by decide)⟩,
          ⟨"amber", by decide, by simp, by decide⟩⟩, tight, line, tight, line⟩]
        apart := by decide, beforeEnd := tight }
    let style : LaidBlock :=
      { heading := .set ⟨"style", by decide, List.all_eq_true.1 (by decide)⟩ none
        beforeKeyword := tight, beforeKind := line, beforeName := tight, beforeBrace := tight
        entries := [], apart := by decide, beforeEnd := line }
    (∀ laid ∈ [bird, style], laid.legible = true) ∧
      Outline.ofScript (layOut [bird, style] line) = Outline.ofWritten [bird.block, style.block] := by
  intro tight line bird style
  have hlegible : ∀ laid ∈ [bird, style], laid.legible = true := by decide
  exact ⟨hlegible, (ofScript_layOut [bird, style] line).2 hlegible⟩

/-- Braces that hold nothing, and a name that stands right behind its kind, make a block that is not read. -/
theorem illegible_blocks_unread :
    Outline.ofScript "create bird \"crow\" \x7b\x7d" = {} ∧
      Outline.ofScript "create bird\"crow\" \x7b \x7d" = {} ∧
      (Outline.ofScript "create bird \"crow\" \x7b \x7d").subject = some ⟨"bird", "crow", []⟩ := by
  decide +kernel

end PromptCanvas.Script
