import PromptCanvas.Proofs.Text.Search
import PromptCanvas.Proofs.Text.Trim
import PromptCanvas.Script.Block

set_option autoImplicit false

/-! # The grammar of blocks

What the recognisers of blocks read, said as a grammar. Every recogniser takes the longest run of a class
and stops at the first mark, so that a text is read in one way only. -/

namespace PromptCanvas.Script

open Text

variable {cs rest : List Char}

/-! ## Tokens -/

/-- White space between tokens that must not touch. -/
def Gap (cs : List Char) : Prop := cs ≠ [] ∧ ∀ c ∈ cs, isBlank c = true

/-- A run of word characters. -/
def Run (cs : List Char) : Prop := cs ≠ [] ∧ ∀ c ∈ cs, isWord c = true

/-- A text that can stand before the mark which closes it. -/
def Inner (close : Char) (cs : List Char) : Prop := cs ≠ [] ∧ close ∉ cs

/-- Neither white space nor a run starts with a character of the other class. -/
theorem Gap.not_isWord_head? {gap : List Char} (h : Gap gap) (rest : List Char) :
    ∀ c ∈ (gap ++ rest).head?, isWord c = false := by
  obtain ⟨hne, hblank⟩ := h
  obtain ⟨c, tail, rfl⟩ := List.exists_cons_of_ne_nil hne
  intro d hd
  obtain rfl : c = d := by simpa using hd
  exact not_isWord_of_isBlank (hblank _ List.mem_cons_self)

theorem Run.not_isBlank_head? {word : List Char} (h : Run word) (rest : List Char) :
    ∀ c ∈ (word ++ rest).head?, isBlank c = false := by
  obtain ⟨hne, hword⟩ := h
  obtain ⟨c, tail, rfl⟩ := List.exists_cons_of_ne_nil hne
  intro d hd
  obtain rfl : c = d := by simpa using hd
  refine Bool.eq_false_iff.2 fun hblank => ?_
  have hnot := not_isWord_of_isBlank hblank
  rw [hword _ List.mem_cons_self] at hnot
  exact Bool.noConfusion hnot

theorem blanks?_eq_some_iff :
    blanks? cs = some rest ↔
      (∃ gap, Gap gap ∧ cs = gap ++ rest) ∧ ∀ c ∈ rest.head?, isBlank c = false := by
  constructor
  · intro h
    cases cs with
    | nil => simp [blanks?] at h
    | cons c cs =>
        simp only [blanks?] at h
        split at h
        · next hblank =>
            obtain rfl := Option.some.inj h
            refine ⟨⟨c :: cs.takeWhile isBlank, ⟨List.cons_ne_nil _ _, ?_⟩, ?_⟩,
              not_of_mem_head?_dropWhile cs⟩
            · intro d hd
              rcases List.mem_cons.1 hd with rfl | hd
              · exact hblank
              · exact List.mem_takeWhile_imp hd
            · exact congrArg (c :: ·) List.takeWhile_append_dropWhile.symm
        · simp at h
  · rintro ⟨⟨gap, ⟨hne, hblank⟩, rfl⟩, hrest⟩
    obtain ⟨c, gap, rfl⟩ := List.exists_cons_of_ne_nil hne
    obtain ⟨hc, hgap⟩ := List.forall_mem_cons.1 hblank
    simp only [List.cons_append, blanks?, hc, if_true]
    exact congrArg some (dropWhile_append_eq hgap hrest)

theorem wordRun?_eq_some_iff {word : List Char} :
    wordRun? cs = some (word, rest) ↔
      Run word ∧ cs = word ++ rest ∧ ∀ c ∈ rest.head?, isWord c = false := by
  unfold wordRun?
  constructor
  · intro h
    cases htake : cs.takeWhile isWord with
    | nil => simp [htake] at h
    | cons c tail =>
        simp only [htake, Option.some.injEq, Prod.mk.injEq] at h
        obtain ⟨rfl, rfl⟩ := h
        refine ⟨⟨List.cons_ne_nil _ _, fun d hd => ?_⟩, ?_, not_of_mem_head?_dropWhile cs⟩
        · rw [← htake] at hd
          exact List.mem_takeWhile_imp hd
        · rw [← htake]
          exact List.takeWhile_append_dropWhile.symm
  · rintro ⟨⟨hne, hword⟩, rfl, hrest⟩
    obtain ⟨c, tail, rfl⟩ := List.exists_cons_of_ne_nil hne
    rw [takeWhile_append_eq hword hrest, dropWhile_append_eq hword hrest]

theorem upTo?_eq_some_iff {close : Char} {inner : List Char} :
    upTo? close cs = some (inner, rest) ↔ Inner close inner ∧ cs = inner ++ close :: rest := by
  unfold upTo?
  constructor
  · intro h
    have hsplit := List.takeWhile_append_dropWhile (p := (· ≠ close)) (l := cs)
    cases htake : cs.takeWhile (· ≠ close) with
    | nil =>
        rw [htake] at h
        cases h
    | cons c tail =>
        cases hdrop : cs.dropWhile (· ≠ close) with
        | nil =>
            rw [htake, hdrop] at h
            cases h
        | cons d after =>
            rw [htake, hdrop, Option.some.injEq, Prod.mk.injEq] at h
            obtain ⟨rfl, rfl⟩ := h
            -- the rest starts where the class of all other characters stops
            have hclose : d = close := by
              have hnot := not_of_mem_head?_dropWhile (p := (· ≠ close)) cs d (by rw [hdrop]; rfl)
              simpa using hnot
            refine ⟨⟨List.cons_ne_nil _ _, fun hmem => ?_⟩, ?_⟩
            · rw [← htake] at hmem
              have hother := List.mem_takeWhile_imp hmem
              simp at hother
            · rw [← hsplit, htake, hdrop, hclose]
  · rintro ⟨⟨hne, hclose⟩, rfl⟩
    have hinner : ∀ c ∈ inner, decide (c ≠ close) = true := by
      intro c hc
      rw [decide_eq_true_iff]
      rintro rfl
      exact hclose hc
    have hrest : ∀ c ∈ (close :: rest).head?, decide (c ≠ close) = false := by simp
    rw [takeWhile_append_eq hinner hrest, dropWhile_append_eq hinner hrest]
    obtain ⟨c, inner, rfl⟩ := List.exists_cons_of_ne_nil hne
    rfl

theorem quoted?_eq_some_iff {inner : List Char} :
    quoted? cs = some (inner, rest) ↔ Inner '"' inner ∧ cs = '"' :: (inner ++ '"' :: rest) := by
  unfold quoted?
  split
  · simp [upTo?_eq_some_iff]
  · next hne =>
      refine ⟨fun h => by simp at h, ?_⟩
      rintro ⟨_, rfl⟩
      exact absurd rfl (hne _)

theorem braced?_eq_some_iff {inner : List Char} :
    braced? cs = some (inner, rest) ↔ Inner '}' inner ∧ cs = '{' :: (inner ++ '}' :: rest) := by
  unfold braced?
  split
  · simp [upTo?_eq_some_iff]
  · next hne =>
      refine ⟨fun h => by simp at h, ?_⟩
      rintro ⟨_, rfl⟩
      exact absurd rfl (hne _)

theorem keyword?_eq_some_iff {word : String} {afterWord : Bool} :
    keyword? word afterWord cs = some rest ↔ afterWord = false ∧ cs = word.toList ++ rest := by
  unfold keyword?
  split
  · next h => simp [h]
  · next h => simp [h, after?_eq_some_iff]

end PromptCanvas.Script
