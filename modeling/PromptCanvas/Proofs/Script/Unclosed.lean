import PromptCanvas.Proofs.Script.Legible

set_option autoImplicit false

/-! # Blocks that are not closed

An opened block without a name, or with one that is set apart, ends with the closing brace of the next block if
there is one: it is read with the text of that block for the end of its body, and what reads its keyword does
not find that block. Where no block follows, it says nothing. -/

namespace PromptCanvas.Script

open Text

variable {rest : List Char}

/-! ## What stands before a closing brace -/

namespace OpenBlock

variable (laid : OpenBlock)

/-- The text before the opening brace. -/
def frontChars : List Char :=
  laid.beforeKeyword.chars ++ (laid.heading.keyword.toList ++ (laid.beforeKind.chars
    ++ (laid.heading.kind.text.toList ++ (laid.titleChars ++ laid.beforeBrace.chars))))

theorem chars_eq_front : laid.chars = laid.frontChars ++ '{' :: laid.bodyChars := by
  simp [chars, headChars, frontChars]

/-- A mark other than the quote stands before the brace only if it does in the name. -/
theorem not_mem_front {mark : Char} (hword : isWord mark = false) (hblank : isBlank mark = false)
    (hquote : mark ≠ '"') (hname : ∀ name, laid.heading.name? = some name → mark ∉ name.text.toList) :
    mark ∉ laid.frontChars := by
  have htitle : mark ∉ laid.titleChars := by
    unfold titleChars
    split
    · next name hsome => simp [laid.beforeName.not_mem hblank, hname name hsome, hquote]
    · exact List.not_mem_nil
  have hkeyword : mark ∉ laid.heading.keyword.toList := laid.heading.word.not_mem hword
  simp [frontChars, Space.not_mem, Word.not_mem, htitle, hkeyword, hblank, hword]

end OpenBlock

namespace LaidBlock

variable (laid : LaidBlock)

theorem brace_not_mem_inner : '}' ∉ laid.innerChars := by
  have hfront : '}' ∉ laid.frontChars :=
    laid.not_mem_front (by decide) (by decide) (by decide) fun name _ => name.not_mem (by decide)
  simp [innerChars, OpenBlock.chars_eq_front, hfront, laid.brace_not_mem_body, Space.not_mem,
    (by decide : isBlank '}' = false)]

theorem flatten_inner : flatten laid.innerChars = laid.fold.innerChars := by
  rw [innerChars, laid.toOpenBlock.folds, Space.flatten]
  rfl

end LaidBlock

theorem Label.not_mem {label front : List Char} (h : Label label front) {mark : Char}
    (hword : isWord mark = false) (hblank : isBlank mark = false) : mark ∉ front := by
  cases h with
  | missing => exact List.not_mem_nil
  | given hlabel hspace =>
      rw [List.mem_append, not_or]
      refine ⟨fun hmem => ?_, fun hmem => ?_⟩
      · rw [hlabel.2 mark hmem] at hword
        exact Bool.noConfusion hword
      · rw [hspace mark hmem] at hblank
        exact Bool.noConfusion hblank

/-- A property starts with its label and a colon, so it does not start before a brace in front of which no
    colon stands. -/
theorem property?_brace {piece : List Char} (h : ':' ∉ piece) (afterWord : Bool) :
    property? afterWord (piece ++ '{' :: rest) = none := by
  refine Option.eq_none_iff_forall_ne_some.2 fun ⟨property, left⟩ hfound => ?_
  obtain ⟨label, front, space, text, hlabel, _, _, heq, _⟩ := property?_eq_some_iff.1 hfound
  rcases List.append_eq_append_iff.1 heq with ⟨more, hfront, hmore⟩ | ⟨more, hpiece, hmore⟩
  · cases more with
    | nil => exact absurd (List.cons.inj hmore).1 (by decide)
    | cons c more =>
        obtain rfl := (List.cons.inj hmore).1
        have hbrace : '{' ∉ front := hlabel.not_mem (by decide) (by decide)
        exact hbrace (hfront ▸ by simp)
  · cases more with
    | nil => exact absurd (List.cons.inj hmore).1 (by decide)
    | cons c more =>
        obtain rfl := (List.cons.inj hmore).1
        exact h (hpiece ▸ by simp)

theorem scan_property_brace {piece : List Char} (h : ':' ∉ piece) :
    scan property? 0 false (piece ++ '{' :: rest) = scan property? 0 false rest := by
  have hsplit : piece ++ '{' :: rest = (piece ++ ['{']) ++ rest := by simp
  rw [hsplit, scan_idle, endsInWord_concat, (by decide : isWord '{' = false)]
  intro suffix hne hsuffix afterWord
  rcases List.suffix_concat_iff.1 hsuffix with rfl | ⟨piece', rfl, hpiece'⟩
  · exact absurd rfl hne
  · rw [List.append_assoc]
    exact property?_brace (fun hmem => h (hpiece'.subset hmem)) afterWord

/-- The properties before a closing brace are those of the entries, if no colon is in the name. -/
theorem LaidBlock.innerProperties_eq (laid : LaidBlock)
    (h : ∀ name, laid.heading.name? = some name → ':' ∉ name.text.toList) :
    laid.innerProperties = laid.properties := by
  have hfront : ':' ∉ laid.fold.frontChars := laid.fold.not_mem_front (by decide) (by decide) (by decide) h
  have hsplit : laid.fold.innerChars
      = laid.fold.frontChars ++ '{' :: (laid.fold.bodyChars ++ laid.fold.beforeEnd.chars) := by
    simp [innerChars, OpenBlock.chars_eq_front]
  calc laid.innerProperties
      = Script.properties (laid.fold.bodyChars ++ laid.fold.beforeEnd.chars) := by
        rw [innerProperties, laid.flatten_inner, hsplit, Script.properties, scanAll, scan_property_brace hfront]
        rfl
    _ = laid.fold.properties := by
        rw [OpenBlock.properties_append, properties_space, List.append_nil]
    _ = laid.properties := laid.toOpenBlock.properties_fold

/-! ## Reading -/

namespace Reads

variable {α : Type} {recognise : Bool → List Char → Option (α × List Char)} {word : String}
  {make : List Char → Option (List Char) → List Property → Option α}
  {say : Heading → List Property → Option α}

/-- Nothing is found in an opened block in front of an end. -/
theorem scan_unclosed (h : Reads recognise word make say) (laid : OpenBlock) (hshut : Shut rest)
    (hrest : '}' ∉ rest) :
    scan recognise 0 false (laid.chars ++ rest) = scan recognise 0 false rest := by
  refine h.scan_unopened laid hshut fun _ _ inner left _ heq => ?_
  have hmem : '}' ∈ laid.bodyChars ++ rest := by
    rw [heq]
    simp
  rcases List.mem_append.1 hmem with hbody | hmem
  · exact laid.brace_not_mem_body hbody
  · exact hrest hmem

theorem scan_swallowed (h : Reads recognise word make say) (laid : OpenBlock)
    (hkeyword : laid.heading.keyword = word) (htitled : laid.titled = true) (next : LaidBlock) :
    scan recognise 0 false (laid.chars ++ (next.chars ++ rest))
      = (say laid.heading (laid.properties ++ Script.properties next.innerChars)).toList
        ++ scan recognise 0 false rest := by
  have hinner : Inner '}' (laid.bodyChars ++ next.innerChars) := by
    refine ⟨?_, ?_⟩
    · simp [LaidBlock.innerChars, OpenBlock.chars, OpenBlock.headChars]
    · rw [List.mem_append, not_or]
      exact ⟨laid.brace_not_mem_body, next.brace_not_mem_inner⟩
  have hsplit : laid.bodyChars ++ (next.chars ++ rest)
      = (laid.bodyChars ++ next.innerChars) ++ '}' :: rest := by
    simp [LaidBlock.chars]
  rw [h.scan_opened laid hkeyword htitled hinner hsplit, laid.properties_append]

/-- An opened block adds nothing to a document if no block follows, if its name is not set apart or if
    another word starts it. -/
theorem scan_silent (h : Reads recognise word make say) {laid : OpenBlock} {before after : List LaidBlock}
    (hsilent : after = [] ∨ laid.titled = false ∨ laid.heading.keyword ≠ word) (atEnd : Space) :
    scan recognise 0 false (before.flatMap LaidBlock.chars
        ++ (laid.chars ++ (after.flatMap LaidBlock.chars ++ atEnd.chars)))
      = said say (before ++ after) := by
  have hshut : Shut (after.flatMap LaidBlock.chars ++ atEnd.chars) := shut_document after atEnd.shut
  have hopen : scan recognise 0 false (laid.chars ++ (after.flatMap LaidBlock.chars ++ atEnd.chars))
      = scan recognise 0 false (after.flatMap LaidBlock.chars ++ atEnd.chars) := by
    rcases hsilent with rfl | htitled | hkeyword
    · exact h.scan_unclosed laid hshut (atEnd.not_mem (by decide))
    · exact h.scan_unopened laid hshut fun _ htitled' => absurd (htitled.symm.trans htitled') (by decide)
    · exact h.scan_unopened laid hshut fun hown => absurd hown hkeyword
  rw [h.scan_document before (laid.shut hshut), hopen, h.scan_document after atEnd.shut, h.scan_atEnd,
    List.append_nil, said_append]

/-- An opened block that is read takes the place of the block behind it. -/
theorem scan_swallowing (h : Reads recognise word make say) {laid : OpenBlock}
    (hkeyword : laid.heading.keyword = word) (htitled : laid.titled = true) (before : List LaidBlock)
    (next : LaidBlock) (after : List LaidBlock) (atEnd : Space) :
    scan recognise 0 false (before.flatMap LaidBlock.chars
        ++ (laid.chars ++ ((next :: after).flatMap LaidBlock.chars ++ atEnd.chars)))
      = said say before ++ ((say laid.heading (laid.properties ++ Script.properties next.innerChars)).toList
          ++ said say after) := by
  have hshut : Shut ((next :: after).flatMap LaidBlock.chars ++ atEnd.chars) := shut_document _ atEnd.shut
  rw [h.scan_document before (laid.shut hshut), List.flatMap_cons, List.append_assoc,
    h.scan_swallowed laid hkeyword htitled next, h.scan_document after atEnd.shut, h.scan_atEnd,
    List.append_nil]

end Reads

/-! ## Documents -/

section

variable (before after : List LaidBlock) (unclosed : OpenBlock) (atEnd : Space)

theorem flatten_layOutOpen :
    flatten (layOutOpen before unclosed after atEnd).toList
      = (before.map LaidBlock.fold).flatMap LaidBlock.chars
        ++ (unclosed.fold.chars
          ++ ((after.map LaidBlock.fold).flatMap LaidBlock.chars ++ atEnd.fold.chars)) := by
  rw [layOutOpen, String.toList_ofList, folds_document, unclosed.folds, folds_document, Space.flatten]

variable {α : Type} {recognise : Bool → List Char → Option (α × List Char)} {word : String}
  {make : List Char → Option (List Char) → List Property → Option α}
  {say : Heading → List Property → Option α}

theorem Reads.scan_layOutOpen_silent (h : Reads recognise word make say)
    (hsilent : after = [] ∨ unclosed.titled = false ∨ unclosed.heading.keyword ≠ word) :
    scanAll recognise (flatten (layOutOpen before unclosed after atEnd).toList)
      = said say (before ++ after) := by
  have hfold : after.map LaidBlock.fold = [] ∨ unclosed.fold.titled = false
      ∨ unclosed.fold.heading.keyword ≠ word := by
    rwa [List.map_eq_nil_iff, unclosed.titled_fold]
  rw [flatten_layOutOpen, scanAll, h.scan_silent hfold, ← List.map_append, said_fold]

theorem Reads.scan_layOutOpen_swallowing (h : Reads recognise word make say)
    (hkeyword : unclosed.heading.keyword = word) (htitled : unclosed.titled = true) (next : LaidBlock) :
    scanAll recognise (flatten (layOutOpen before unclosed (next :: after) atEnd).toList)
      = said say before ++ ((say unclosed.heading (unclosed.properties ++ next.innerProperties)).toList
          ++ said say after) := by
  have hkeyword' : unclosed.fold.heading.keyword = word := hkeyword
  have htitled' : unclosed.fold.titled = true := unclosed.titled_fold.trans htitled
  rw [flatten_layOutOpen, scanAll, List.map_cons, h.scan_swallowing hkeyword' htitled', said_fold, said_fold,
    unclosed.properties_fold, ← next.flatten_inner]
  rfl

end

variable (before after : List LaidBlock) (unclosed : OpenBlock) (atEnd : Space)

/-- A block that is not closed says nothing where no block follows or where its name is not set apart. Else it
    is read up to the end of the next block: with the properties that stand there, which are those of that
    block if no colon is in its name, and in the place of that block if both start with the same word. All
    other blocks are read as if it were not there. -/
theorem ofScript_layOutOpen :
    (after = [] ∨ unclosed.titled = false →
      Outline.ofScript (layOutOpen before unclosed after atEnd)
        = Outline.ofScript (layOut (before ++ after) atEnd)) ∧
    ∀ next later, after = next :: later → unclosed.titled = true →
      (∀ kind name, unclosed.heading = .create kind name →
        Outline.ofScript (layOutOpen before unclosed after atEnd)
          = .ofBlocks (subjects before
              ++ ⟨kind.text, name.text, unclosed.properties ++ next.innerProperties⟩ :: subjects later)
            (settings (before ++ after))) ∧
      (∀ kind name, unclosed.heading = .set kind name →
        Outline.ofScript (layOutOpen before unclosed after atEnd)
          = .ofBlocks (subjects (before ++ after))
            (settings before
              ++ ⟨kind.text, name.map Phrase.text, unclosed.properties ++ next.innerProperties⟩
                :: settings later)) ∧
      ((∀ name, next.heading.name? = some name → ':' ∉ name.text.toList) →
        next.innerProperties = next.properties) := by
  refine ⟨fun hsilent => ?_, ?_⟩
  · have hkeep : ∀ word, after = [] ∨ unclosed.titled = false ∨ unclosed.heading.keyword ≠ word := fun word =>
      hsilent.imp_right Or.inl
    rw [Outline.ofScript, Outline.ofFlat, reads_subject.scan_layOutOpen_silent _ _ _ _ (hkeep _),
      reads_setting.scan_layOutOpen_silent _ _ _ _ (hkeep _), ← subjects_eq_said, ← settings_eq_said,
      ofScript_layOut_eq]
    rfl
  · rintro next later rfl htitled
    refine ⟨fun kind name hheading => ?_, fun kind name hheading => ?_, next.innerProperties_eq⟩
    · have hown : unclosed.heading.keyword = "create" := congrArg Heading.keyword hheading
      have hother : unclosed.heading.keyword ≠ "set" := by
        rw [hown]
        decide
      rw [Outline.ofScript, Outline.ofFlat, reads_subject.scan_layOutOpen_swallowing _ _ _ _ hown htitled,
        reads_setting.scan_layOutOpen_silent _ _ _ _ (.inr (.inr hother)), ← subjects_eq_said,
        ← subjects_eq_said, ← settings_eq_said, hheading]
      rfl
    · have hown : unclosed.heading.keyword = "set" := congrArg Heading.keyword hheading
      have hother : unclosed.heading.keyword ≠ "create" := by
        rw [hown]
        decide
      rw [Outline.ofScript, Outline.ofFlat, reads_subject.scan_layOutOpen_silent _ _ _ _ (.inr (.inr hother)),
        reads_setting.scan_layOutOpen_swallowing _ _ _ _ hown htitled, ← subjects_eq_said,
        ← settings_eq_said, ← settings_eq_said, hheading]
      rfl

/-- A knight that is not closed, behind a style and before it, and a scene that is not closed before one. -/
theorem ofScript_layOutOpen_style :
    let line : Space := ⟨['\n'], List.all_eq_true.1 (by decide)⟩
    let entry : LaidEntry :=
      ⟨⟨⟨"mood", by decide, List.all_eq_true.1 (by decide)⟩, ⟨"calm", by decide, by simp, by decide⟩⟩,
        line, line, line, line⟩
    let knight : OpenBlock :=
      { heading := .create ⟨"knight", by decide, List.all_eq_true.1 (by decide)⟩
          ⟨"Ada", by decide, by simp, by decide⟩
        beforeKeyword := line, beforeKind := line, beforeName := line, beforeBrace := line
        entries := [entry], apart := by decide }
    let scene : OpenBlock :=
      { knight with heading := .set ⟨"scene", by decide, List.all_eq_true.1 (by decide)⟩ none }
    let style : LaidBlock :=
      { knight with
        heading := .set ⟨"style", by decide, List.all_eq_true.1 (by decide)⟩ none, beforeEnd := line }
    Outline.ofScript (layOutOpen [style] knight [] line) = Outline.ofScript (layOut [style] line) ∧
      Outline.ofScript (layOutOpen [] knight [style] line)
        = .ofBlocks [⟨"knight", "Ada", knight.properties ++ style.properties⟩] (settings [style]) ∧
      Outline.ofScript (layOutOpen [] scene [style] line)
        = .ofBlocks [] [⟨"scene", none, scene.properties ++ style.properties⟩] := by
  intro line entry knight scene style
  obtain ⟨hknight, _, hinner⟩ := (ofScript_layOutOpen [] [style] knight line).2 style [] rfl (by decide)
  obtain ⟨_, hscene, _⟩ := (ofScript_layOutOpen [] [style] scene line).2 style [] rfl (by decide)
  have hproperties : style.innerProperties = style.properties := hinner fun _ hname => nomatch hname
  refine ⟨(ofScript_layOutOpen [style] [] knight line).1 (.inl rfl), ?_, ?_⟩
  · rw [hknight _ _ rfl, hproperties]
    rfl
  · rw [hscene _ _ rfl, hproperties]
    rfl

/-- The block behind a block that is not closed ends it: the first one is read, with the properties of both. -/
theorem unclosed_block_ends_later :
    let unclosed := "create knight \"Ada\" \x7b eyes: \"grey\";\n"
    let style := "set style \x7b mood: \"calm\"; \x7d"
    Outline.ofScript unclosed = Outline.ofScript "" ∧
      Outline.ofScript (unclosed ++ style) ≠ Outline.ofScript style ∧
      (Outline.ofScript (unclosed ++ style)).subject
        = some ⟨"knight", "Ada", [⟨"eyes", "grey"⟩, ⟨"mood", "calm"⟩]⟩ := by
  decide +kernel

end PromptCanvas.Script
