import PromptCanvas.Proofs.Script.Unquoted

set_option autoImplicit false

/-! # Compiling scripts

The prompt of a script is a normal form: it is trimmed, it is empty for blank scripts only, and compiling it
again gives it back. A script that says nothing is its own prompt, and what a prompt says is nothing. -/

namespace PromptCanvas.Script

open Text

/-- A prompt is the trimmed script, or a trimmed text without quotes that is not empty. -/
theorem compile_cases (script : String) :
    compile script = trimmed script ∨
      ∃ prompt, compile script = trimmed prompt ∧ trimmed prompt ≠ "" ∧ Unquoted prompt ∧
        (Outline.ofScript script).isEmpty = false := by
  unfold compile
  simp only
  split
  · exact Or.inl rfl
  · next hsays =>
      split
      · exact Or.inl rfl
      · next hprompt =>
          exact Or.inr ⟨_, rfl, hprompt, (Outline.unquoted_ofScript script).prompt,
            Bool.eq_false_iff.2 hsays⟩

theorem exists_compile_eq_trimmed (script : String) : ∃ s, compile script = trimmed s := by
  rcases compile_cases script with h | ⟨prompt, h, _⟩
  · exact ⟨script, h⟩
  · exact ⟨prompt, h⟩

theorem isEmpty_ofScript_of_blank {script : String} (h : blank script = true) :
    (Outline.ofScript script).isEmpty = true := by
  refine isEmpty_ofScript_of_unquoted fun hmem => ?_
  exact absurd (List.all_eq_true.1 h '"' hmem) (by decide)

theorem compile_eq_empty_iff (script : String) : compile script = "" ↔ blank script = true := by
  rcases compile_cases script with h | ⟨prompt, h, hne, _, hsays⟩
  · rw [h, trimmed_eq_empty_iff]
  · rw [h]
    refine ⟨fun hempty => absurd hempty hne, fun hblank => ?_⟩
    rw [isEmpty_ofScript_of_blank hblank] at hsays
    exact Bool.noConfusion hsays

theorem compile_of_isEmpty {script : String} (h : (Outline.ofScript script).isEmpty = true) :
    compile script = trimmed script := by
  simp only [compile, h, if_true]

/-- The prompt of a script does not depend on the white space around it. -/
theorem compile_trimmed (script : String) : compile (trimmed script) = compile script := by
  unfold compile
  rw [ofScript_trimmed, trimmed_trimmed]

theorem compile_compile (script : String) : compile (compile script) = compile script := by
  rcases compile_cases script with h | ⟨prompt, h, _, hunquoted, _⟩
  · rw [h, compile_trimmed, h]
  · -- what a prompt says is nothing
    rw [h, compile_trimmed, compile_of_isEmpty (isEmpty_ofScript_of_unquoted hunquoted)]

/-- A prompt is blank only where it is empty. -/
theorem blank_compile_iff (script : String) : blank (compile script) = true ↔ blank script = true := by
  obtain ⟨s, hs⟩ := exists_compile_eq_trimmed script
  rw [← compile_eq_empty_iff script, ← trimmed_eq_empty_iff, hs, trimmed_trimmed]

end PromptCanvas.Script
