import PromptCanvas.Proofs.Script.Line

set_option autoImplicit false

/-! # Stripped scripts

A script without its comments and line breaks is a normal form of stripping: nothing is left to strip from it.
Two slashes could come together in two places. Behind a comment that is cut off the line ends, so that the
slash before it meets no other one; and where line breaks are folded a space stays between the lines. -/

namespace PromptCanvas.Script

variable {cs : List Char}

/-- A text on one line, without comments. -/
structure Stripped (cs : List Char) : Prop where
  noReturn : '\r' ∉ cs
  noFeed : '\n' ∉ cs
  uncommented : ¬ ['/', '/'] <:+: cs

theorem not_isBreak_of_mem_foldBreaks {folding : Bool} {c : Char} (h : c ∈ foldBreaks folding cs) :
    isBreak c = false := by
  induction cs generalizing folding with
  | nil => cases folding <;> exact absurd h List.not_mem_nil
  | cons d cs ih =>
      rw [foldBreaks] at h
      split at h
      · split at h
        · exact ih h
        · rcases List.mem_cons.1 h with rfl | h
          · decide
          · exact ih h
      · next hbreak =>
          rcases List.mem_cons.1 h with rfl | h
          · exact Bool.eq_false_iff.2 hbreak
          · exact ih h

theorem stripped_flatten (cs : List Char) : Stripped (flatten cs) := by
  have hbreaks : ∀ c ∈ flatten cs, isBreak c = false := fun _ => not_isBreak_of_mem_foldBreaks
  obtain ⟨hreturn, hfeed⟩ := forall_not_isBreak_iff.1 hbreaks
  exact ⟨hreturn, hfeed, not_infix_flatten cs⟩

theorem Stripped.flatten_eq (h : Stripped cs) : flatten cs = cs := by
  have hend : ¬ (cs.getLast? = some '/' ∧ ([] : List Char).head? = some '/') := by simp
  have hstays : flatten (cs ++ []) = cs ++ flatten [] :=
    flatten_append (forall_not_isBreak_iff.2 ⟨h.noReturn, h.noFeed⟩) h.uncommented hend
  rw [List.append_nil] at hstays
  exact hstays.trans (List.append_nil cs)

theorem flatten_eq_self_iff : flatten cs = cs ↔ Stripped cs := by
  refine ⟨fun h => ?_, Stripped.flatten_eq⟩
  rw [← h]
  exact stripped_flatten cs

theorem flatten_flatten (cs : List Char) : flatten (flatten cs) = flatten cs :=
  (stripped_flatten cs).flatten_eq

theorem toList_stripComments (script : String) : (stripComments script).toList = flatten script.toList :=
  String.toList_ofList

/-! ## Scripts -/

/-- Stripping leaves one line without comments, from which nothing more is stripped: exactly the scripts without
    line breaks and comments stay as they are. -/
theorem stripComments_normal (script : String) :
    Stripped (stripComments script).toList ∧
      stripComments (stripComments script) = stripComments script ∧
      (stripComments script = script ↔ Stripped script.toList) := by
  refine ⟨?_, ?_, ?_⟩
  · rw [toList_stripComments]
    exact stripped_flatten script.toList
  · rw [stripComments, toList_stripComments, flatten_flatten, ← stripComments]
  · rw [← String.toList_inj, toList_stripComments]
    exact flatten_eq_self_iff

/-- Slashes at the end of a line and at the start of the next one stay apart. -/
example : stripComments "a//// b\n/c\r\n\r//\n/" = "a /c /" := by decide

end PromptCanvas.Script
