import PromptCanvas.Proofs.Script.Flatten
import PromptCanvas.Proofs.Script.Idle
import PromptCanvas.Script.Outline

set_option autoImplicit false

/-! # White space around a script

White space around a script says nothing: flattening leaves white space of it, no block starts there, and a
block that ends before it is found with or without it. -/

namespace PromptCanvas.Script

open Text

variable {cs after before : List Char}

/-- A text of white space. -/
def Blank (cs : List Char) : Prop := ∀ c ∈ cs, isBlank c = true

/-- A mark that is no white space ends before white space does. -/
theorem append_blank_eq_iff {front left : List Char} {mark : Char} (hafter : Blank after)
    (hmark : isBlank mark = false) :
    cs ++ after = front ++ mark :: left ↔ ∃ inner, cs = front ++ mark :: inner ∧ left = inner ++ after := by
  constructor
  · intro h
    rcases List.append_eq_append_iff.1 h with ⟨tail, rfl, heq⟩ | ⟨tail, rfl, heq⟩
    · -- the mark would be white space
      have hmem : mark ∈ after := by
        rw [heq]
        exact List.mem_append_right _ List.mem_cons_self
      rw [hafter mark hmem] at hmark
      exact Bool.noConfusion hmark
    · cases tail with
      | nil =>
          have hmem : mark ∈ after := by
            rw [show after = mark :: left from heq.symm]
            exact List.mem_cons_self
          rw [hafter mark hmem] at hmark
          exact Bool.noConfusion hmark
      | cons c tail =>
          obtain ⟨rfl, rfl⟩ := List.cons.inj heq
          exact ⟨tail, rfl, rfl⟩
  · rintro ⟨inner, rfl, rfl⟩
    simp

/-! ## Flattening -/

theorem cutComments_sublist (inside : Bool) (cs : List Char) : (cutComments inside cs).Sublist cs := by
  induction cs generalizing inside with
  | nil => cases inside <;> exact List.Sublist.refl _
  | cons c cs ih =>
      cases inside with
      | true =>
          rw [cutComments]
          split
          · exact (ih _).cons_cons c
          · exact (ih _).cons c
      | false =>
          rw [cutComments]
          split
          · exact (ih _).cons c
          · exact (ih _).cons_cons c

theorem mem_foldBreaks {folding : Bool} {c : Char} (h : c ∈ foldBreaks folding cs) : c ∈ cs ∨ c = ' ' := by
  induction cs generalizing folding with
  | nil => cases folding <;> exact absurd h List.not_mem_nil
  | cons d cs ih =>
      rw [foldBreaks] at h
      split at h
      · split at h
        · exact (ih h).imp_left (List.mem_cons_of_mem d)
        · rcases List.mem_cons.1 h with rfl | h
          · exact Or.inr rfl
          · exact (ih h).imp_left (List.mem_cons_of_mem d)
      · rcases List.mem_cons.1 h with rfl | h
        · exact Or.inl List.mem_cons_self
        · exact (ih h).imp_left (List.mem_cons_of_mem d)

theorem mem_flatten {c : Char} (h : c ∈ flatten cs) : c ∈ cs ∨ c = ' ' :=
  (mem_foldBreaks h).imp_left fun hmem => (cutComments_sublist _ _).subset hmem

theorem Blank.foldBreaks (h : Blank cs) (folding : Bool) : Blank (foldBreaks folding cs) := by
  intro c hc
  rcases mem_foldBreaks hc with hmem | rfl
  · exact h c hmem
  · decide

theorem not_comment_of_isBlank {c : Char} (h : isBlank c = true) (rest : List Char) :
    ¬ (c = '/' ∧ rest.head? = some '/') := by
  rintro ⟨rfl, _⟩
  exact absurd h (by decide)

theorem cutComments_blank_append (hbefore : Blank before) (cs : List Char) :
    cutComments false (before ++ cs) = before ++ cutComments false cs := by
  induction before with
  | nil => rfl
  | cons c before ih =>
      obtain ⟨hc, hbefore⟩ := List.forall_mem_cons.1 hbefore
      rw [List.cons_append, cutComments, if_neg (not_comment_of_isBlank hc _), ih hbefore, List.cons_append]

theorem cutComments_append_blank (hafter : Blank after) (inside : Bool) (cs : List Char) :
    ∃ margin, Blank margin ∧ cutComments inside (cs ++ after) = cutComments inside cs ++ margin := by
  induction cs generalizing inside with
  | nil =>
      refine ⟨cutComments inside after, fun c hc => hafter c ((cutComments_sublist _ _).subset hc), ?_⟩
      cases inside <;> rfl
  | cons c cs ih =>
      -- a second slash is none of the white space
      have hslash : (cs ++ after).head? = some '/' ↔ cs.head? = some '/' := by
        cases cs with
        | nil =>
            refine ⟨fun h => ?_, fun h => by simp at h⟩
            exact absurd (hafter '/' (List.mem_of_mem_head? h)) (by decide)
        | cons d cs => exact Iff.rfl
      cases inside with
      | true =>
          simp only [List.cons_append, cutComments]
          split
          · obtain ⟨margin, hmargin, heq⟩ := ih false
            exact ⟨margin, hmargin, congrArg (c :: ·) heq⟩
          · exact ih true
      | false =>
          simp only [List.cons_append, cutComments, hslash]
          split
          · exact ih true
          · obtain ⟨margin, hmargin, heq⟩ := ih false
            exact ⟨margin, hmargin, congrArg (c :: ·) heq⟩

theorem foldBreaks_append_blank (hafter : Blank after) (folding : Bool) (cs : List Char) :
    ∃ margin, Blank margin ∧ foldBreaks folding (cs ++ after) = foldBreaks folding cs ++ margin := by
  induction cs generalizing folding with
  | nil =>
      refine ⟨foldBreaks folding after, hafter.foldBreaks folding, ?_⟩
      cases folding <;> rfl
  | cons c cs ih =>
      simp only [List.cons_append, foldBreaks]
      split
      · obtain ⟨margin, hmargin, heq⟩ := ih true
        split
        · exact ⟨margin, hmargin, heq⟩
        · exact ⟨margin, hmargin, congrArg (' ' :: ·) heq⟩
      · obtain ⟨margin, hmargin, heq⟩ := ih false
        exact ⟨margin, hmargin, congrArg (c :: ·) heq⟩

/-- Folding leaves white space before what it leaves after a line break. -/
theorem foldBreaks_eq_margin (folding : Bool) (cs : List Char) :
    ∃ margin, Blank margin ∧ foldBreaks folding cs = margin ++ foldBreaks true cs := by
  cases folding with
  | true => exact ⟨[], by simp [Blank], rfl⟩
  | false =>
      cases cs with
      | nil => exact ⟨[], by simp [Blank], rfl⟩
      | cons c cs =>
          simp only [foldBreaks]
          split
          · exact ⟨[' '], by simp [Blank]; decide, rfl⟩
          · exact ⟨[], by simp [Blank], rfl⟩

theorem foldBreaks_blank_append (hbefore : Blank before) (folding : Bool) (cs : List Char) :
    ∃ margin, Blank margin ∧ foldBreaks folding (before ++ cs) = margin ++ foldBreaks true cs := by
  induction before generalizing folding with
  | nil => exact foldBreaks_eq_margin folding cs
  | cons c before ih =>
      obtain ⟨hc, hbefore⟩ := List.forall_mem_cons.1 hbefore
      simp only [List.cons_append, foldBreaks]
      split
      · obtain ⟨margin, hmargin, heq⟩ := ih hbefore true
        split
        · exact ⟨margin, hmargin, heq⟩
        · exact ⟨' ' :: margin, List.forall_mem_cons.2 ⟨by decide, hmargin⟩, congrArg (' ' :: ·) heq⟩
      · obtain ⟨margin, hmargin, heq⟩ := ih hbefore false
        exact ⟨c :: margin, List.forall_mem_cons.2 ⟨hc, hmargin⟩, congrArg (c :: ·) heq⟩

/-- White space around a text, and the text without it, are flattened to one text and white space around
    it. -/
theorem flatten_margin (hbefore : Blank before) (hafter : Blank after) (cs : List Char) :
    ∃ core margin margin' margin'', Blank margin ∧ Blank margin' ∧ Blank margin'' ∧
      flatten cs = margin ++ core ∧ flatten (before ++ (cs ++ after)) = margin' ++ (core ++ margin'') := by
  obtain ⟨cut, hcut, heq⟩ := cutComments_append_blank hafter false cs
  obtain ⟨margin, hmargin, hcore⟩ := foldBreaks_eq_margin false (cutComments false cs)
  obtain ⟨margin', hmargin', hfront⟩ := foldBreaks_blank_append hbefore false (cutComments false cs ++ cut)
  obtain ⟨margin'', hmargin'', hback⟩ := foldBreaks_append_blank hcut true (cutComments false cs)
  refine ⟨_, margin, margin', margin'', hmargin, hmargin', hmargin'', hcore, ?_⟩
  rw [flatten, cutComments_blank_append hbefore, heq, hfront, hback]

/-! ## Scanning -/

/-- A recogniser for which white space says nothing. -/
structure Blind {α : Type} (recognise : Bool → List Char → Option (α × List Char)) : Prop where
  /-- White space starts no part. -/
  start : ∀ afterWord c rest, isBlank c = true → recognise afterWord (c :: rest) = none
  /-- White space behind a part goes with what is left. -/
  stop : ∀ afterWord cs after part left, Blank after →
    (recognise afterWord (cs ++ after) = some (part, left) ↔
      ∃ inner, recognise afterWord cs = some (part, inner) ∧ left = inner ++ after)

section

variable {α : Type} {recognise : Bool → List Char → Option (α × List Char)}

theorem Blind.scan_blank (h : Blind recognise) (hafter : Blank after) (skip : Nat) (afterWord : Bool) :
    scan recognise skip afterWord after = [] := by
  induction after generalizing skip afterWord with
  | nil => rw [scan]
  | cons c after ih =>
      obtain ⟨hc, hafter⟩ := List.forall_mem_cons.1 hafter
      cases skip with
      | zero =>
          rw [scan, h.start afterWord c after hc]
          exact ih hafter 0 _
      | succ skip => exact ih hafter skip _

theorem Blind.scan_append_blank (h : Blind recognise) (hafter : Blank after) (skip : Nat)
    (afterWord : Bool) (cs : List Char) :
    scan recognise skip afterWord (cs ++ after) = scan recognise skip afterWord cs := by
  induction cs generalizing skip afterWord with
  | nil => rw [List.nil_append, h.scan_blank hafter, scan]
  | cons c cs ih =>
      cases skip with
      | zero =>
          cases hfound : recognise afterWord (c :: cs) with
          | some found =>
              obtain ⟨part, left⟩ := found
              have hstop : recognise afterWord (c :: (cs ++ after)) = some (part, left ++ after) :=
                (h.stop afterWord (c :: cs) after part _ hafter).2 ⟨left, hfound, rfl⟩
              have hskip : (cs ++ after).length - (left ++ after).length = cs.length - left.length := by
                rw [List.length_append, List.length_append]
                omega
              rw [List.cons_append, scan, scan, hfound, hstop]
              simp only [hskip, ih]
          | none =>
              have hstop : recognise afterWord (c :: (cs ++ after)) = none := by
                refine Option.eq_none_iff_forall_ne_some.2 fun found hsome => ?_
                obtain ⟨part, left⟩ := found
                obtain ⟨inner, hinner, _⟩ := (h.stop afterWord (c :: cs) after part left hafter).1 hsome
                rw [hfound] at hinner
                simp at hinner
              rw [List.cons_append, scan, scan, hfound, hstop]
              exact ih 0 _
      | succ skip => exact ih skip _

theorem Blind.scan_blank_append (h : Blind recognise) (hbefore : Blank before) (cs : List Char) :
    scan recognise 0 false (before ++ cs) = scan recognise 0 false cs := by
  induction before with
  | nil => rfl
  | cons c before ih =>
      obtain ⟨hc, hbefore⟩ := List.forall_mem_cons.1 hbefore
      rw [List.cons_append, scan, h.start false c _ hc, not_isWord_of_isBlank hc]
      exact ih hbefore

/-- What is found in a script does not depend on the white space around it. -/
theorem Blind.scan_flatten (h : Blind recognise) (hbefore : Blank before) (hafter : Blank after)
    (cs : List Char) :
    scanAll recognise (flatten (before ++ (cs ++ after))) = scanAll recognise (flatten cs) := by
  obtain ⟨core, _, _, _, hmargin, hmargin', hmargin'', hcs, houter⟩ := flatten_margin hbefore hafter cs
  unfold scanAll
  rw [houter, hcs, h.scan_blank_append hmargin', h.scan_append_blank hmargin'',
    h.scan_blank_append hmargin]

end

/-! ## Blocks -/

theorem not_opens_blank {word : String} (hword : Run word.toList) {c : Char} (h : isBlank c = true)
    (rest : List Char) : ¬ Opens word (c :: rest) := not_opens_mark hword (not_isWord_of_isBlank h)

/-- White space behind a block goes with what is left. -/
theorem framed_append_blank_iff {word : String} {kind body left : List Char} {name : Option (List Char)}
    (hafter : Blank after) :
    Framed word kind name body left (cs ++ after) ↔
      ∃ inner, Framed word kind name body inner cs ∧ left = inner ++ after := by
  constructor
  · intro h
    generalize htext : cs ++ after = text at h
    cases h with
    | @intro gap title space hgap hkind htitle hspace hbody =>
        have hsplit : cs ++ after
            = (word.toList ++ (gap ++ (kind ++ (title ++ (space ++ '{' :: body))))) ++ '}' :: left := by
          rw [htext]
          simp
        obtain ⟨inner, rfl, rfl⟩ := (append_blank_eq_iff hafter (by decide)).1 hsplit
        refine ⟨inner, ?_, rfl⟩
        simpa using Framed.intro hgap hkind htitle hspace hbody
  · rintro ⟨inner, h, rfl⟩
    cases h with
    | intro hgap hkind htitle hspace hbody =>
        simpa using Framed.intro hgap hkind htitle hspace hbody

theorem blind_subject : Blind subject? where
  start := fun _ _ rest hc =>
    Option.eq_none_iff_forall_ne_some.2 fun _ h => not_opens_blank run_create hc rest (opens_of_subject? h)
  stop := by
    intro afterWord cs after part left hafter
    simp only [subject?_eq_some_iff, framed_append_blank_iff hafter]
    constructor
    · rintro ⟨hword, kind, name, body, ⟨inner, hframed, rfl⟩, rfl⟩
      exact ⟨inner, ⟨hword, kind, name, body, hframed, rfl⟩, rfl⟩
    · rintro ⟨inner, ⟨hword, kind, name, body, hframed, rfl⟩, rfl⟩
      exact ⟨hword, kind, name, body, ⟨inner, hframed, rfl⟩, rfl⟩

theorem blind_setting : Blind setting? where
  start := fun _ _ rest hc =>
    Option.eq_none_iff_forall_ne_some.2 fun _ h => not_opens_blank run_set hc rest (opens_of_setting? h)
  stop := by
    intro afterWord cs after part left hafter
    simp only [setting?_eq_some_iff, framed_append_blank_iff hafter]
    constructor
    · rintro ⟨hword, kind, name, body, ⟨inner, hframed, rfl⟩, rfl⟩
      exact ⟨inner, ⟨hword, kind, name, body, hframed, rfl⟩, rfl⟩
    · rintro ⟨inner, ⟨hword, kind, name, body, hframed, rfl⟩, rfl⟩
      exact ⟨hword, kind, name, body, ⟨inner, hframed, rfl⟩, rfl⟩

theorem ofScript_trimmed (script : String) :
    Outline.ofScript (trimmed script) = Outline.ofScript script := by
  obtain ⟨before, after, hbefore, hafter, heq⟩ := exists_eq_append_trim script.toList
  unfold Outline.ofScript Outline.ofFlat
  rw [toList_trimmed]
  conv_rhs => rw [heq]
  rw [blind_subject.scan_flatten hbefore hafter, blind_setting.scan_flatten hbefore hafter]

end PromptCanvas.Script
