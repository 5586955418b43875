import PromptCanvas.Proofs.Script.Scan

set_option autoImplicit false

/-! # Pieces in which no block starts

A block could be seen where none was written: at a word that is no keyword, in a quoted text, or across two
texts. A word needs a gap and a kind after it. In a quoted text everything up to the next quote belongs to
the text, so that what starts there would have to take the closing quote for an opening one; then a brace
would have to stand behind the quote after that, which it does not in a text that is shut. -/

namespace PromptCanvas.Script

open Text

variable {word : String} {piece rest : List Char}

/-! ## Shut texts -/

/-- Read from within quotes, the text does not go on with a brace behind the next quote. -/
def Shut (rest : List Char) : Prop :=
  ∀ inner space more : List Char, '"' ∉ inner → (∀ c ∈ space, isBlank c = true) →
    rest ≠ inner ++ '"' :: (space ++ '{' :: more)

/-- The text before the first mark is the same however a text is taken apart. -/
theorem append_mark_inj {mark : Char} {first first' rest' : List Char}
    (h : first ++ mark :: rest = first' ++ mark :: rest') (hfirst : mark ∉ first)
    (hfirst' : mark ∉ first') : first = first' ∧ rest = rest' := by
  have hclass : ∀ l : List Char, mark ∉ l → ∀ c ∈ l, decide (c ≠ mark) = true := by
    intro l hl c hc
    rw [decide_eq_true_iff]
    rintro rfl
    exact hl hc
  have hmark : ∀ l, ∀ c ∈ (mark :: l).head?, decide (c ≠ mark) = false :=
    fun l => head?_cons_not (by simp)
  obtain ⟨rfl, hrest⟩ :=
    span_unique h (hclass first hfirst) (hmark rest) (hclass first' hfirst') (hmark rest')
  exact ⟨rfl, (List.cons.inj hrest).2⟩

theorem shut_nil : Shut [] := by
  intro inner space more _ _ h
  simp at h

theorem Shut.append (h : Shut rest) (hpiece : '"' ∉ piece) : Shut (piece ++ rest) := by
  intro inner space more hinner hspace heq
  rcases List.append_eq_append_iff.1 heq with ⟨tail, rfl, hrest⟩ | ⟨tail, rfl, hmark⟩
  · exact h tail space more (fun hmem => hinner (List.mem_append_right _ hmem)) hspace hrest
  · -- the piece would reach beyond the quote
    cases tail with
    | nil => exact h [] space more List.not_mem_nil hspace (by simpa using hmark.symm)
    | cons c tail =>
        obtain ⟨rfl, _⟩ := List.cons.inj hmark
        exact hpiece (List.mem_append_right _ List.mem_cons_self)

theorem shut_quote {inner : List Char} (hquote : '"' ∉ inner) (hbrace : '{' ∉ inner) :
    Shut ('"' :: (inner ++ '"' :: rest)) := by
  intro before space more hbefore hspace heq
  -- the next quote is the one the text starts with
  have hinner : inner ++ '"' :: rest = space ++ '{' :: more := by
    have hsplit : [] ++ '"' :: (inner ++ '"' :: rest) = before ++ '"' :: (space ++ '{' :: more) := heq
    exact (append_mark_inj hsplit List.not_mem_nil hbefore).2
  rcases List.append_eq_append_iff.1 hinner with ⟨tail, rfl, hrest⟩ | ⟨tail, rfl, hmark⟩
  · cases tail with
    | nil => exact absurd (List.cons.inj hrest).1 (by decide)
    | cons c tail =>
        obtain ⟨rfl, _⟩ := List.cons.inj hrest
        exact absurd (hspace _ (List.mem_append_right _ List.mem_cons_self)) (by decide)
  · cases tail with
    | nil => exact absurd (List.cons.inj hmark).1 (by decide)
    | cons c tail =>
        obtain ⟨rfl, _⟩ := List.cons.inj hmark
        exact hbrace (List.mem_append_right _ List.mem_cons_self)

/-! ## Idle pieces -/

/-- No block with the keyword starts within the piece. -/
def Idle (word : String) (piece rest : List Char) : Prop :=
  ∀ suffix, suffix ≠ [] → suffix <:+ piece → ¬ Opens word (suffix ++ rest)

theorem Idle.append {piece' : List Char} (h : Idle word piece (piece' ++ rest))
    (h' : Idle word piece' rest) : Idle word (piece ++ piece') rest := by
  rintro suffix hne ⟨before, heq⟩
  rcases List.append_eq_append_iff.1 heq with ⟨tail, hpiece, rfl⟩ | ⟨tail, rfl, hsuffix⟩
  · cases tail with
    | nil => exact h' _ hne (List.suffix_refl _)
    | cons c tail =>
        rw [List.append_assoc]
        exact h (c :: tail) (List.cons_ne_nil _ _) ⟨before, hpiece.symm⟩
  · exact h' suffix hne ⟨tail, hsuffix.symm⟩

/-- A word is idle if it does not end in the keyword, or if no gap and kind follow. -/
theorem idle_word (hword : Run word.toList) (hpiece : ∀ c ∈ piece, isWord c = true)
    (hrest : ∀ c ∈ rest.head?, isWord c = false)
    (h : ¬ word.toList <:+ piece ∨
      ∀ gap kind more, Gap gap → Run kind → rest ≠ gap ++ (kind ++ more)) : Idle word piece rest := by
  rintro suffix _ hsuffix hopens
  obtain ⟨rfl, gap, kind, more, hgap, hkind, hmore⟩ :=
    hopens.keyword hword (fun c hc => hpiece c (hsuffix.subset hc)) hrest
  rcases h with h | h
  · exact h hsuffix
  · exact h gap kind more hgap hkind hmore

theorem idle_mark (hword : Run word.toList) {mark : Char} (hmark : isWord mark = false) :
    Idle word [mark] rest := by
  rintro suffix hne hsuffix hopens
  obtain rfl : suffix = [mark] := by
    rcases List.suffix_cons_iff.1 hsuffix with h | h
    · exact h
    · exact absurd (List.suffix_nil.1 h) hne
  have hopens' : Opens word ([] ++ mark :: rest) := hopens
  have hnil := (hopens'.keyword hword (by simp) (head?_cons_not hmark)).1
  exact hword.1 hnil.symm

theorem not_opens_mark (hword : Run word.toList) {mark : Char} (hmark : isWord mark = false) :
    ¬ Opens word (mark :: rest) :=
  idle_mark hword hmark [mark] (List.cons_ne_nil _ _) (List.suffix_refl _)

theorem run_create : Run "create".toList := ⟨by decide, List.all_eq_true.1 (by decide)⟩

theorem run_set : Run "set".toList := ⟨by decide, List.all_eq_true.1 (by decide)⟩

theorem Idle.cons {mark : Char} (h : Idle word piece rest) (hword : Run word.toList)
    (hmark : isWord mark = false) : Idle word (mark :: piece) rest :=
  (idle_mark hword hmark).append h

theorem no_kind_before_mark {space : List Char} {mark : Char} (hspace : ∀ c ∈ space, isBlank c = true)
    (hblank : isBlank mark = false) (hmark : isWord mark = false) :
    ∀ gap kind more, Gap gap → Run kind → space ++ mark :: rest ≠ gap ++ (kind ++ more) := by
  intro gap kind more hgap hkind heq
  have hmarks := (span_unique heq hspace (head?_cons_not hblank) hgap.2 (hkind.not_isBlank_head? more)).2
  obtain ⟨c, tail, rfl⟩ := List.exists_cons_of_ne_nil hkind.1
  obtain rfl := (List.cons.inj hmarks).1
  rw [hkind.2 _ List.mem_cons_self] at hmark
  exact Bool.noConfusion hmark

/-- Nothing starts within a quoted text if what follows it is shut. -/
theorem idle_inner (hword : Run word.toList) (hquote : '"' ∉ piece) (hbrace : '{' ∉ piece)
    (hrest : Shut rest) : Idle word piece ('"' :: rest) := by
  rintro suffix _ hsuffix ⟨kind, name, body, left, hframed⟩
  have hclear : ∀ {class' : Char → Bool} {l : List Char}, class' '"' = false →
      (∀ c ∈ l, class' c = true) → '"' ∉ l := by
    intro class' l hmark hl hmem
    rw [hl _ hmem] at hmark
    exact Bool.noConfusion hmark
  have hword' := hclear (by decide) hword.2
  generalize htext : suffix ++ '"' :: rest = text at hframed
  cases hframed with
  | @intro gap title space hgap hkind htitle hspace hbody =>
      have hgap' := hclear (by decide) hgap.2
      have hkind' := hclear (by decide) hkind.2
      have hspace' := hclear (by decide) hspace
      cases htitle with
      | @named gap' name hgap₂ hname =>
          -- the closing quote of the piece would open the name
          have hgap₂' := hclear (by decide) hgap₂.2
          have hsplit : suffix ++ '"' :: rest = (word.toList ++ (gap ++ (kind ++ gap')))
              ++ '"' :: (name ++ '"' :: (space ++ '{' :: (body ++ '}' :: left))) := by
            rw [htext]
            simp
          have hname' := (append_mark_inj hsplit (fun hmem => hquote (hsuffix.subset hmem))
            (by simp [hword', hgap', hkind', hgap₂'])).2
          exact hrest name space _ hname.2 hspace hname'
      | unnamed =>
          -- a brace would stand before the closing quote of the piece
          have hmem : '{' ∈ suffix := by
            have hsplit : suffix ++ '"' :: rest = (word.toList ++ (gap ++ (kind ++ space)))
                ++ '{' :: (body ++ '}' :: left) := by
              rw [htext]
              simp
            rcases List.append_eq_append_iff.1 hsplit with ⟨tail, hfront, hafter⟩ | ⟨tail, rfl, hafter⟩
            · cases tail with
              | nil => exact absurd (List.cons.inj hafter).1 (by decide)
              | cons c tail =>
                  obtain ⟨rfl, _⟩ := List.cons.inj hafter
                  have hmem : '"' ∈ word.toList ++ (gap ++ (kind ++ space)) := by
                    rw [hfront]
                    exact List.mem_append_right _ List.mem_cons_self
                  simp [hword', hgap', hkind', hspace'] at hmem
            · cases tail with
              | nil => exact absurd (List.cons.inj hafter).1 (by decide)
              | cons c tail =>
                  obtain ⟨rfl, _⟩ := List.cons.inj hafter
                  exact List.mem_append_right _ List.mem_cons_self
          exact hbrace (hsuffix.subset hmem)

end PromptCanvas.Script
