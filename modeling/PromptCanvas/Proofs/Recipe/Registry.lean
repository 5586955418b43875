import PromptCanvas.Recipe.Registry

set_option autoImplicit false

/-! # What a table of recipes lacks

A table lacks a kind that is run with a recipe and has none. Asked for such a kind, a registry passes the base
prompt through and records the kind; a covered table lacks nothing. -/

namespace PromptCanvas

theorem NodeKind.mem_all (kind : NodeKind) : kind ∈ NodeKind.all := by
  cases kind <;> decide

namespace RecipeTable

/-- Whether a kind is run with a recipe, and the table has none for it. -/
def lacks (table : RecipeTable) (kind : NodeKind) : Bool := decide (kind ∉ recipeFree) && !table.has kind

theorem lacks_eq_true_iff {table : RecipeTable} {kind : NodeKind} :
    table.lacks kind = true ↔ kind ∉ recipeFree ∧ table.has kind = false := by
  simp [lacks]

end RecipeTable

/-! ## Coverage -/

variable {table : RecipeTable} {free : List NodeKind} {kind : NodeKind}

theorem coverageOf_eq_none_iff :
    coverageOf table free kind = none ↔ (table.has kind = true ↔ kind ∉ free) := by
  unfold coverageOf
  by_cases hfree : kind ∈ free
  · cases table.has kind <;> simp [hfree]
  · cases table.has kind <;> simp [hfree]

/-- A table has no problem exactly when the kinds with a recipe are those that are not free. -/
theorem coverage_eq_nil_iff :
    coverage table free = [] ↔ ∀ kind, (table.has kind = true ↔ kind ∉ free) := by
  unfold coverage
  rw [List.filterMap_eq_nil_iff]
  constructor
  · intro h kind
    exact coverageOf_eq_none_iff.1 (h kind kind.mem_all)
  · intro h kind _
    exact coverageOf_eq_none_iff.2 (h kind)

theorem lacks_eq_false_of_coverage (h : coverage table recipeFree = []) (kind : NodeKind) :
    table.lacks kind = false := by
  rw [Bool.eq_false_iff, Ne, RecipeTable.lacks_eq_true_iff]
  rintro ⟨hfree, hmissing⟩
  rw [(coverage_eq_nil_iff.1 h kind).2 hfree] at hmissing
  exact Bool.noConfusion hmissing

/-! ## The record of a registry -/

namespace Registry

/-- A registry with one more kind in its record, if there is one. -/
def recording (registry : Registry) (missed : Option NodeKind) : Registry :=
  { registry with anomalies := registry.anomalies ++ missed.toList }

variable (registry : Registry)

theorem recording_none : registry.recording none = registry := by
  unfold recording
  rw [Option.toList_none, List.append_nil]

theorem recording_of_free {kind : NodeKind} (h : kind ∈ recipeFree) :
    registry.recording (if registry.table.lacks kind then some kind else none) = registry := by
  have hlacks : registry.table.lacks kind = false := by simp [RecipeTable.lacks, h]
  rw [hlacks]
  exact registry.recording_none

theorem resolve_snd (kind : NodeKind) (base custom : String) :
    (registry.resolve kind base custom).2
      = registry.recording (if registry.table.has kind then none else some kind) := by
  unfold resolve RecipeTable.has
  cases registry.table.get? kind with
  | some recipe => exact registry.recording_none.symm
  | none => rfl

/-- Without a recipe the base prompt passes through. -/
theorem resolve_fst_of_missing {kind : NodeKind} (h : registry.table.has kind = false)
    (base custom : String) : (registry.resolve kind base custom).1 = base := by
  unfold RecipeTable.has at h
  unfold resolve
  rw [Option.isSome_eq_false_iff, Option.isNone_iff_eq_none] at h
  rw [h]

end Registry

end PromptCanvas
