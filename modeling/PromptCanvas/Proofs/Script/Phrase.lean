import PromptCanvas.Proofs.Script.Flatten
import PromptCanvas.Proofs.Script.Idle
import PromptCanvas.Script.Written

set_option autoImplicit false

/-! # Words and phrases

What the texts that blocks are written with do to a scan and to flattening: no block starts within them, and
flattening leaves them as they are. -/

namespace PromptCanvas.Script

open Text

variable {rest : List Char}

theorem toList_ne_nil {s : String} (h : s ≠ "") : s.toList ≠ [] := fun hnil =>
  h (String.toList_eq_nil_iff.1 hnil)

theorem Word.run (w : Word) : Run w.text.toList := ⟨toList_ne_nil w.nonempty, w.plain⟩

theorem Word.not_mem (w : Word) {mark : Char} (h : isWord mark = false) : mark ∉ w.text.toList := by
  intro hmem
  rw [w.plain mark hmem] at h
  exact Bool.noConfusion h

theorem Phrase.not_mem (phrase : Phrase) {mark : Char} (h : mark ∈ ['"', '{', '}', '\r', '\n']) :
    mark ∉ phrase.text.toList := fun hmem => phrase.plain mark hmem h

theorem Phrase.inner (phrase : Phrase) : Inner '"' phrase.text.toList :=
  ⟨toList_ne_nil phrase.nonempty, phrase.not_mem (by decide)⟩

/-! ## Idle texts -/

section

variable {word : String} (hword : Run word.toList)
include hword

/-- A word is idle if no gap and kind stand behind it. -/
theorem Word.idle (w : Word) (space : List Char) {mark : Char} {piece : List Char}
    (hspace : ∀ c ∈ space, isBlank c = true) (hblank : isBlank mark = false) (hmark : isWord mark = false)
    (h : Idle word (space ++ mark :: piece) rest) :
    Idle word (w.text.toList ++ (space ++ mark :: piece)) rest := by
  refine Idle.append ?_ h
  rw [List.append_assoc]
  exact idle_word hword w.plain (not_isWord_head?_blanks hspace hmark)
    (Or.inr (no_kind_before_mark hspace hblank hmark))

theorem Phrase.idle (phrase : Phrase) {piece : List Char} (h : Idle word piece rest)
    (hrest : Shut (piece ++ rest)) :
    Idle word ('"' :: (phrase.text.toList ++ '"' :: piece)) rest := by
  have hinner := idle_inner hword (phrase.not_mem (by decide)) (phrase.not_mem (by decide)) hrest
  exact Idle.cons (hinner.append (h.cons hword (by decide))) hword (by decide)

theorem idle_marks {piece : List Char} (h : ∀ c ∈ piece, isWord c = false) : Idle word piece rest := by
  induction piece with
  | nil => exact fun suffix hne hsuffix => absurd (List.suffix_nil.1 hsuffix) hne
  | cons c piece ih =>
      obtain ⟨hc, hpiece⟩ := List.forall_mem_cons.1 h
      exact (ih hpiece).cons hword hc

end

/-! ## Steady texts -/

theorem Word.not_isBreak (w : Word) : ∀ c ∈ w.text.toList, isBreak c = false :=
  forall_not_isBreak_iff.2 ⟨w.not_mem (by decide), w.not_mem (by decide)⟩

theorem Phrase.not_isBreak (phrase : Phrase) : ∀ c ∈ phrase.text.toList, isBreak c = false :=
  forall_not_isBreak_iff.2 ⟨phrase.not_mem (by decide), phrase.not_mem (by decide)⟩

theorem Word.steady (w : Word) : Steady w.text.toList :=
  steady_plain w.not_isBreak (w.not_mem (by decide))

theorem Phrase.steady (phrase : Phrase) : Steady (phrase.text.toList ++ ['"']) :=
  steady_append_mark phrase.not_isBreak phrase.uncommented (by decide) (by decide)

end PromptCanvas.Script
