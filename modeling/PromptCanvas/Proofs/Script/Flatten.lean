import PromptCanvas.Script.Comment

set_option autoImplicit false

/-! # What flattening leaves alone

Texts without comments and line breaks stay as they are, whatever follows them. -/

namespace PromptCanvas.Script

variable {piece piece' rest : List Char}

theorem slashes_prefix_cons_iff {c : Char} : ['/', '/'] <+: c :: rest ↔ c = '/' ∧ rest.head? = some '/' := by
  cases rest with
  | nil => simp
  | cons d rest => simp [eq_comm]

theorem slashes_infix_cons_iff {c : Char} :
    ['/', '/'] <:+: c :: rest ↔ (c = '/' ∧ rest.head? = some '/') ∨ ['/', '/'] <:+: rest := by
  rw [List.infix_cons_iff, slashes_prefix_cons_iff]

theorem isBreak_eq_true_iff {c : Char} : isBreak c = true ↔ c = '\r' ∨ c = '\n' := by
  rw [isBreak, Bool.or_eq_true, beq_iff_eq, beq_iff_eq]

theorem forall_not_isBreak_iff : (∀ c ∈ piece, isBreak c = false) ↔ '\r' ∉ piece ∧ '\n' ∉ piece := by
  constructor
  · intro h
    exact ⟨fun hreturn => absurd (h _ hreturn) (by decide), fun hfeed => absurd (h _ hfeed) (by decide)⟩
  · rintro ⟨hreturn, hfeed⟩ c hc
    refine Bool.eq_false_iff.2 fun hbreak => ?_
    rcases isBreak_eq_true_iff.1 hbreak with rfl | rfl
    · exact hreturn hc
    · exact hfeed hc

/-- Flattening leaves a piece as it is. -/
def Steady (piece : List Char) : Prop := ∀ rest, flatten (piece ++ rest) = piece ++ flatten rest

theorem steady_nil : Steady [] := fun _ => rfl

theorem Steady.append (h : Steady piece) (h' : Steady piece') : Steady (piece ++ piece') := by
  intro rest
  rw [List.append_assoc, h, h', List.append_assoc]

theorem flatten_cons {c : Char} (hbreak : isBreak c = false) (h : ¬ (c = '/' ∧ rest.head? = some '/')) :
    flatten (c :: rest) = c :: flatten rest := by
  unfold flatten
  rw [cutComments, if_neg h, foldBreaks, if_neg (Bool.eq_false_iff.1 hbreak)]

/-- A text without comments and line breaks stays, if no comment starts where it ends. -/
theorem flatten_append (hbreaks : ∀ c ∈ piece, isBreak c = false) (hcomment : ¬ ['/', '/'] <:+: piece)
    (hend : ¬ (piece.getLast? = some '/' ∧ rest.head? = some '/')) :
    flatten (piece ++ rest) = piece ++ flatten rest := by
  induction piece with
  | nil => rfl
  | cons c piece ih =>
      obtain ⟨hbreak, hbreaks⟩ := List.forall_mem_cons.1 hbreaks
      obtain ⟨hstart, hpiece⟩ := not_or.1 (mt slashes_infix_cons_iff.2 hcomment)
      cases piece with
      | nil => exact flatten_cons hbreak fun h => hend ⟨congrArg some h.1, h.2⟩
      | cons d piece =>
          have hhead : ¬ (c = '/' ∧ (d :: piece ++ rest).head? = some '/') := hstart
          rw [List.getLast?_cons_cons] at hend
          show flatten (c :: (d :: piece ++ rest)) = c :: (d :: piece ++ flatten rest)
          rw [flatten_cons hbreak hhead, ih hbreaks hpiece hend]

/-- A text without comments and line breaks stays, if a mark follows it. -/
theorem steady_append_mark {mark : Char} (hbreaks : ∀ c ∈ piece, isBreak c = false)
    (hcomment : ¬ ['/', '/'] <:+: piece) (hmark : isBreak mark = false) (hslash : mark ≠ '/') :
    Steady (piece ++ [mark]) := by
  intro rest
  have hend : ¬ (piece.getLast? = some '/' ∧ (mark :: rest).head? = some '/') :=
    fun h => hslash (Option.some.inj h.2)
  rw [List.append_assoc, List.append_assoc, List.cons_append, List.nil_append,
    flatten_append hbreaks hcomment hend, flatten_cons hmark fun h => hslash h.1]
  rfl

theorem steady_plain (hbreaks : ∀ c ∈ piece, isBreak c = false) (hslash : '/' ∉ piece) : Steady piece :=
  fun _ => flatten_append hbreaks (fun h => hslash (h.subset List.mem_cons_self))
    fun h => hslash (List.mem_of_getLast? h.1)

end PromptCanvas.Script
