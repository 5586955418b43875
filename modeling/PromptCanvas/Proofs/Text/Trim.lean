import Mathlib.Data.List.DropRight
import PromptCanvas.Text.Blank
import PromptCanvas.Text.Word

set_option autoImplicit false

/-! # Trimmed texts

A trimmed text neither starts nor ends with white space, and what trimming takes away is white space.
White space and word characters have nothing in common. -/

namespace PromptCanvas.Text

/-! ## Classes of characters -/

/-- Classes whose ranges lie apart have no character in common. -/
theorem Ranges.not_has_of_apart {first second : Ranges} {c : Char}
    (hapart : (first.all fun a => second.all fun b => a.2 < b.1 || b.2 < a.1) = true)
    (h : first.has c = true) : second.has c = false := by
  obtain ⟨a, ha, hin⟩ := List.any_eq_true.1 h
  rw [Ranges.has, List.any_eq_false]
  intro b hb hin'
  have hb' := List.all_eq_true.1 (List.all_eq_true.1 hapart a ha) b hb
  simp only [Bool.and_eq_true, Bool.or_eq_true, decide_eq_true_eq] at hin hin' hb'
  omega

/-- Letters and digits come after the white space of ASCII. -/
theorem le_toNat_of_isAlphanum {c : Char} (h : c.isAlphanum = true) : 0x30 ≤ c.toNat := by
  suffices hval : '0'.val ≤ c.val from UInt32.le_iff_toNat_le.1 hval
  obtain halpha | hdigit := Bool.or_eq_true_iff.1 (h : (c.isAlpha || c.isDigit) = true)
  · obtain hupper | hlower := Bool.or_eq_true_iff.1 (halpha : (c.isUpper || c.isLower) = true)
    · have hA : 'A'.val ≤ c.val ∧ c.val ≤ 'Z'.val := of_decide_eq_true hupper
      exact UInt32.le_trans (by decide) hA.1
    · have ha : 'a'.val ≤ c.val := of_decide_eq_true (Bool.and_eq_true_iff.1 hlower).1
      exact UInt32.le_trans (by decide) ha
  · exact of_decide_eq_true (Bool.and_eq_true_iff.1 hdigit).1

theorem not_isWord_of_isBlank {c : Char} (h : isBlank c = true) : isWord c = false := by
  unfold isWord
  split
  · next hascii =>
      have hle : c.toNat ≤ 0x20 := by
        obtain ⟨range, hrange, hin⟩ := List.any_eq_true.1 h
        simp only [blankRanges, List.mem_cons, List.not_mem_nil, or_false] at hrange
        simp only [Bool.and_eq_true, decide_eq_true_eq] at hin
        rcases hrange with rfl | rfl | rfl | rfl | rfl | rfl | rfl | rfl | rfl | rfl <;> omega
      rw [Bool.or_eq_false_iff, beq_eq_false_iff_ne]
      refine ⟨Bool.eq_false_iff.2 fun halnum => ?_, ?_⟩
      · have hge := le_toNat_of_isAlphanum halnum
        omega
      · rintro rfl
        exact absurd hle (by decide)
  · exact Ranges.not_has_of_apart (by decide +kernel) h

/-! ## Spans -/

section

variable {α : Type} {p : α → Bool} {first first' rest rest' : List α}

theorem takeWhile_append_eq (hfirst : ∀ a ∈ first, p a = true) (hrest : ∀ a ∈ rest.head?, p a = false) :
    (first ++ rest).takeWhile p = first := by
  rw [List.takeWhile_append_of_pos hfirst]
  cases rest with
  | nil => simp
  | cons a rest => simp [hrest a rfl]

theorem dropWhile_append_eq (hfirst : ∀ a ∈ first, p a = true) (hrest : ∀ a ∈ rest.head?, p a = false) :
    (first ++ rest).dropWhile p = rest := by
  rw [List.dropWhile_append_of_pos hfirst]
  cases rest with
  | nil => rfl
  | cons a rest => simp [hrest a rfl]

theorem span_unique (h : first ++ rest = first' ++ rest') (hfirst : ∀ a ∈ first, p a = true)
    (hrest : ∀ a ∈ rest.head?, p a = false) (hfirst' : ∀ a ∈ first', p a = true)
    (hrest' : ∀ a ∈ rest'.head?, p a = false) : first = first' ∧ rest = rest' := by
  have hsame : first = first' := by
    rw [← takeWhile_append_eq hfirst hrest, h, takeWhile_append_eq hfirst' hrest']
  subst hsame
  exact ⟨rfl, List.append_cancel_left h⟩

theorem not_of_mem_head?_dropWhile (l : List α) : ∀ a ∈ (l.dropWhile p).head?, p a = false := by
  intro a ha
  have hnot := List.head?_dropWhile_not p l
  rw [Option.mem_def.1 ha] at hnot
  exact hnot

end

/-! ## Trimming -/

section

variable (cs : List Char)

theorem exists_eq_append_trim :
    ∃ before after, (∀ c ∈ before, isBlank c = true) ∧ (∀ c ∈ after, isBlank c = true) ∧
      cs = before ++ (trim cs ++ after) := by
  refine ⟨cs.takeWhile isBlank, (trimStart cs).rtakeWhile isBlank, fun c hc => List.mem_takeWhile_imp hc,
    fun c hc => List.mem_rtakeWhile_imp hc, ?_⟩
  show cs = cs.takeWhile isBlank
    ++ ((trimStart cs).rdropWhile isBlank ++ (trimStart cs).rtakeWhile isBlank)
  rw [List.rdropWhile_append_rtakeWhile]
  exact (List.takeWhile_append_dropWhile).symm

theorem not_isBlank_of_mem_head?_trim : ∀ c ∈ (trim cs).head?, isBlank c = false := by
  intro c hc
  obtain ⟨rest, hrest⟩ : trim cs <+: trimStart cs := List.rdropWhile_prefix isBlank _
  refine not_of_mem_head?_dropWhile cs c ?_
  show c ∈ (trimStart cs).head?
  rw [← hrest, List.head?_append, Option.mem_def.1 hc]
  rfl

theorem not_isBlank_of_mem_getLast?_trim : ∀ c ∈ (trim cs).getLast?, isBlank c = false := by
  intro c hc
  obtain ⟨hne, hlast⟩ := List.mem_getLast?_eq_getLast hc
  rw [hlast]
  exact Bool.eq_false_iff.2 (List.rdropWhile_last_not isBlank (trimStart cs) hne)

variable {cs}

/-- Trimming the start of a text ends before what starts with no white space. -/
theorem trimStart_append {rest : List Char} (hrest : ∀ c ∈ rest.head?, isBlank c = false) (cs : List Char) :
    trimStart (cs ++ rest) = trimStart cs ++ rest := by
  have hnone : ∀ c ∈ ([] : List Char), isBlank c = true := by simp
  unfold trimStart
  rw [List.dropWhile_append]
  split
  · next hempty =>
      rw [List.isEmpty_iff.1 hempty]
      exact dropWhile_append_eq hnone hrest
  · rfl

/-- White space behind a text is trimmed off its end. -/
theorem trimEnd_append {after : List Char} (hlast : ∀ c ∈ cs.getLast?, isBlank c = false)
    (hafter : ∀ c ∈ after, isBlank c = true) : trimEnd (cs ++ after) = cs := by
  have hblank : ∀ c ∈ after.reverse, isBlank c = true := fun c hc => hafter c (List.mem_reverse.1 hc)
  have hhead : ∀ c ∈ cs.reverse.head?, isBlank c = false := by rwa [List.head?_reverse]
  unfold trimEnd
  rw [List.reverse_append, dropWhile_append_eq hblank hhead, List.reverse_reverse]

theorem trim_eq_self (hhead : ∀ c ∈ cs.head?, isBlank c = false)
    (hlast : ∀ c ∈ cs.getLast?, isBlank c = false) : trim cs = cs := by
  have hstart : trimStart cs = cs := by
    have hnone : ∀ c ∈ ([] : List Char), isBlank c = true := by simp
    exact dropWhile_append_eq hnone hhead
  show (trimStart cs).rdropWhile isBlank = cs
  rw [hstart, List.rdropWhile_eq_self_iff]
  intro hne
  rw [hlast _ (List.getLast?_eq_some_getLast hne)]
  decide

theorem trim_trim : trim (trim cs) = trim cs :=
  trim_eq_self (not_isBlank_of_mem_head?_trim cs) (not_isBlank_of_mem_getLast?_trim cs)

theorem trim_eq_nil_iff : trim cs = [] ↔ ∀ c ∈ cs, isBlank c = true := by
  constructor
  · intro h
    obtain ⟨before, after, hbefore, hafter, heq⟩ := exists_eq_append_trim cs
    rw [heq, h]
    simpa [or_imp, forall_and] using ⟨hbefore, hafter⟩
  · intro h
    have hstart : trimStart cs = [] := List.dropWhile_eq_nil_iff.2 h
    show (trimStart cs).rdropWhile isBlank = []
    rw [hstart, List.rdropWhile_nil]

end

section

variable (s : String)

@[simp]
theorem toList_trimmed : (trimmed s).toList = trim s.toList := String.toList_ofList

theorem trimmed_trimmed : trimmed (trimmed s) = trimmed s := by
  unfold trimmed
  rw [String.toList_ofList, trim_trim]

theorem trimmed_eq_empty_iff : trimmed s = "" ↔ blank s = true := by
  rw [← String.toList_inj, toList_trimmed, String.toList_empty, trim_eq_nil_iff, blank, List.all_eq_true]

end

end PromptCanvas.Text
