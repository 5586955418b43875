import PromptCanvas.Validation.Fault

set_option autoImplicit false

/-! # Checks with a value

When a check that is made of others has a value, and from which values of the others it comes. So too for a
computation that goes on with what another one gives. -/

namespace PromptCanvas

theorem bind_eq_ok_iff {ε α β : Type} {x : Except ε α} {f : α → Except ε β} {b : β} :
    x >>= f = .ok b ↔ ∃ a, x = .ok a ∧ f a = .ok b := by
  cases x <;> simp [bind, Except.bind]

theorem bind_eq_error_iff {ε α β : Type} {x : Except ε α} {f : α → Except ε β} {e : ε} :
    x >>= f = .error e ↔ x = .error e ∨ ∃ a, x = .ok a ∧ f a = .error e := by
  cases x <;> simp [bind, Except.bind]

namespace Checked

variable {α β : Type}

theorem map_eq_ok_iff {f : α → β} {c : Checked α} {b : β} :
    c.map f = .ok b ↔ ∃ a, c = .ok a ∧ f a = b := by
  cases c <;> simp [map]

theorem under_eq_ok_iff {step : PathStep} {c : Checked α} {a : α} :
    c.under step = .ok a ↔ c = .ok a := by
  cases c <;> simp [under]

theorem app_eq_ok_iff {f : Checked (α → β)} {c : Checked α} {b : β} :
    f.app c = .ok b ↔ ∃ f' a, f = .ok f' ∧ c = .ok a ∧ f' a = b := by
  cases f <;> cases c <;> simp [app]

theorem all_eq_ok_iff {checks : List (Checked α)} {values : List α} :
    all checks = .ok values ↔ checks = values.map .ok := by
  induction checks generalizing values with
  | nil => cases values <;> simp [all]
  | cons c rest ih =>
      simp only [all, app_eq_ok_iff, map_eq_ok_iff, ih]
      constructor
      · rintro ⟨_, tail, ⟨head, rfl, rfl⟩, rfl, rfl⟩
        rfl
      · intro h
        cases values with
        | nil => exact absurd h (List.cons_ne_nil _ _)
        | cons head tail =>
            rw [List.map_cons, List.cons.injEq] at h
            exact ⟨_, tail, ⟨head, h.1, rfl⟩, h.2, rfl⟩

theorem exists_all_iff {checks : List (Checked α)} :
    (∃ values, all checks = .ok values) ↔ ∀ c ∈ checks, ∃ a, c = .ok a := by
  simp only [all_eq_ok_iff]
  constructor
  · rintro ⟨values, rfl⟩ c hc
    obtain ⟨a, _, rfl⟩ := List.mem_map.1 hc
    exact ⟨a, rfl⟩
  · intro h
    induction checks with
    | nil => exact ⟨[], rfl⟩
    | cons c rest ih =>
        obtain ⟨⟨a, rfl⟩, hrest⟩ := List.forall_mem_cons.1 h
        obtain ⟨values, rfl⟩ := ih hrest
        exact ⟨a :: values, rfl⟩

end Checked

end PromptCanvas
