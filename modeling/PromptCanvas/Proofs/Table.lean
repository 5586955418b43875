import Mathlib.Data.List.Nodup
import PromptCanvas.Json.Basic

set_option autoImplicit false

/-! # Looking up in tables

What `Table.get?` finds after a table was written, filtered, or made from a list. -/

namespace PromptCanvas.Table

variable {κ α β : Type} [DecidableEq κ]

@[simp]
theorem get?_nil (key : κ) : Table.get? ([] : Table κ α) key = none := rfl

theorem get?_cons (entry : κ × α) (table : Table κ α) (key : κ) :
    Table.get? (entry :: table) key = if entry.1 = key then some entry.2 else Table.get? table key :=
  rfl

theorem get?_eq_none_of_not_mem (table : Table κ α) (key : κ) (h : key ∉ table.map Prod.fst) :
    table.get? key = none := by
  induction table with
  | nil => rfl
  | cons entry rest ih =>
      simp only [List.map_cons, List.mem_cons, not_or] at h
      rw [get?_cons, if_neg (fun he => h.1 he.symm), ih h.2]

theorem mem_of_get? {table : Table κ α} {key : κ} {value : α} (h : table.get? key = some value) :
    (key, value) ∈ table := by
  induction table with
  | nil => simp at h
  | cons entry rest ih =>
      rw [get?_cons] at h
      split at h
      · next he =>
          rw [← he, ← Option.some.inj h]
          exact List.mem_cons_self
      · exact List.mem_cons_of_mem _ (ih h)

theorem has_of_mem (table : Table κ α) (entry : κ × α) (h : entry ∈ table) :
    table.has entry.1 = true := by
  induction table with
  | nil => exact absurd h List.not_mem_nil
  | cons first rest ih =>
      unfold Table.has
      rw [get?_cons]
      split
      · rfl
      · next hne =>
          rcases List.mem_cons.1 h with rfl | hrest
          · exact absurd rfl hne
          · exact ih hrest

theorem get?_set (table : Table κ α) (key other : κ) (value : α) :
    (table.set key value).get? other = if key = other then some value else table.get? other := by
  induction table with
  | nil => simp only [Table.set, get?_cons, get?_nil]
  | cons entry rest ih =>
      simp only [Table.set]
      by_cases hkey : entry.1 = key
      · rw [if_pos hkey]
        subst hkey
        simp only [get?_cons]
        split <;> rfl
      · rw [if_neg hkey]
        simp only [get?_cons, ih]
        by_cases hother : entry.1 = other
        · subst hother
          rw [if_pos rfl, if_neg (fun he => hkey he.symm), if_pos rfl]
        · rw [if_neg hother, if_neg hother]

theorem mem_of_mem_set {table : Table κ α} {key : κ} {value : α} {entry : κ × α}
    (h : entry ∈ table.set key value) : entry = (key, value) ∨ entry ∈ table := by
  induction table with
  | nil => exact Or.inl (List.mem_singleton.1 h)
  | cons first rest ih =>
      simp only [Table.set] at h
      split at h
      · exact (List.mem_cons.1 h).imp_right (List.mem_cons_of_mem first)
      · rcases List.mem_cons.1 h with rfl | hrest
        · exact Or.inr List.mem_cons_self
        · exact (ih hrest).imp_right (List.mem_cons_of_mem first)

theorem mem_of_mem_ofEntries {entries : List (κ × α)} {entry : κ × α}
    (h : entry ∈ Table.ofEntries entries) : entry ∈ entries := by
  have hfold : ∀ (entries : List (κ × α)) (table : Table κ α),
      entry ∈ entries.foldl (fun table entry => Table.set entry.1 entry.2 table) table →
        entry ∈ entries ∨ entry ∈ table := by
    intro entries
    induction entries with
    | nil => exact fun _ hmem => Or.inr hmem
    | cons first rest ih =>
        intro table hmem
        rcases ih _ hmem with hrest | hset
        · exact Or.inl (List.mem_cons_of_mem first hrest)
        · rcases mem_of_mem_set hset with rfl | htable
          · exact Or.inl List.mem_cons_self
          · exact Or.inr htable
  exact (hfold entries [] h).resolve_right List.not_mem_nil

theorem set_eq_append (table : Table κ α) (key : κ) (value : α) (h : key ∉ table.map Prod.fst) :
    table.set key value = table ++ [(key, value)] := by
  induction table with
  | nil => rfl
  | cons entry rest ih =>
      simp only [List.map_cons, List.mem_cons, not_or] at h
      simp only [Table.set]
      rw [if_neg (fun he => h.1 he.symm), ih h.2, List.cons_append]

theorem keys_set_of_mem (table : Table κ α) (key : κ) (value : α) (h : key ∈ table.map Prod.fst) :
    (table.set key value).map Prod.fst = table.map Prod.fst := by
  induction table with
  | nil => exact absurd h List.not_mem_nil
  | cons entry rest ih =>
      simp only [Table.set]
      split
      · next he => rw [List.map_cons, List.map_cons, he]
      · next hne =>
          have hrest := (List.mem_cons.1 h).resolve_left fun he => hne he.symm
          rw [List.map_cons, List.map_cons, ih hrest]

/-- Where the keys differ, what a table holds is found under its key. -/
theorem get?_of_mem {table : Table κ α} (hnodup : (table.map Prod.fst).Nodup) {entry : κ × α}
    (h : entry ∈ table) : table.get? entry.1 = some entry.2 := by
  induction table with
  | nil => exact absurd h List.not_mem_nil
  | cons first rest ih =>
      rw [List.map_cons, List.nodup_cons] at hnodup
      rw [get?_cons]
      rcases List.mem_cons.1 h with rfl | hrest
      · rw [if_pos rfl]
      · have hne : first.1 ≠ entry.1 := fun he => hnodup.1 (he ▸ List.mem_map_of_mem hrest)
        rw [if_neg hne, ih hnodup.2 hrest]

theorem mem_keys_of_get? {table : Table κ α} {key : κ} {value : α} (h : table.get? key = some value) :
    key ∈ table.map Prod.fst :=
  List.mem_map_of_mem (mem_of_get? h)

theorem exists_get?_of_mem_keys {table : Table κ α} {key : κ} (h : key ∈ table.map Prod.fst) :
    ∃ value, table.get? key = some value := by
  obtain ⟨entry, hentry, rfl⟩ := List.mem_map.1 h
  exact Option.isSome_iff_exists.1 (has_of_mem table entry hentry)

theorem nodup_keys_set (table : Table κ α) (key : κ) (value : α) (h : (table.map Prod.fst).Nodup) :
    ((table.set key value).map Prod.fst).Nodup := by
  by_cases hkey : key ∈ table.map Prod.fst
  · rw [keys_set_of_mem table key value hkey]
    exact h
  · rw [set_eq_append table key value hkey, List.map_append]
    exact h.append (List.nodup_singleton _) (List.disjoint_singleton.2 hkey)

/-- Tables with the same keys in the same order, all different, are the same if the same is found under
    each of them. -/
theorem ext_of_keys {table table' : Table κ α} (hkeys : table'.map Prod.fst = table.map Prod.fst)
    (hnodup : (table.map Prod.fst).Nodup)
    (hfound : ∀ key ∈ table.map Prod.fst, table'.get? key = table.get? key) : table' = table := by
  induction table generalizing table' with
  | nil => simpa using hkeys
  | cons entry rest ih =>
      cases table' with
      | nil => simp at hkeys
      | cons entry' rest' =>
          rw [List.map_cons, List.map_cons, List.cons.injEq] at hkeys
          obtain ⟨hkey, hkeys⟩ := hkeys
          rw [List.map_cons, List.nodup_cons] at hnodup
          obtain ⟨hnotin, hnodup⟩ := hnodup
          have hfirst := hfound entry.1 List.mem_cons_self
          rw [get?_cons, get?_cons, if_pos hkey, if_pos rfl, Option.some.injEq] at hfirst
          have hrest : rest' = rest := by
            refine ih hkeys hnodup fun key hmem => ?_
            have hne : entry.1 ≠ key := fun he => hnotin (he ▸ hmem)
            have hlater := hfound key (List.mem_cons_of_mem _ hmem)
            rwa [get?_cons, get?_cons, if_neg (fun he => hne (hkey.symm.trans he)), if_neg hne] at hlater
          rw [hrest, Prod.ext hkey hfirst]

theorem get?_filter_keys (keep : κ → Bool) (table : Table κ α) (key : κ) :
    Table.get? (table.filter fun entry => keep entry.1) key
      = if keep key then table.get? key else none := by
  induction table with
  | nil => simp
  | cons entry rest ih =>
      by_cases hkeep : keep entry.1 = true
      · rw [List.filter_cons_of_pos (by exact hkeep), get?_cons, get?_cons, ih]
        by_cases hentry : entry.1 = key
        · subst hentry
          rw [if_pos rfl, if_pos hkeep, if_pos rfl]
        · rw [if_neg hentry, if_neg hentry]
      · rw [List.filter_cons_of_neg (by exact hkeep), get?_cons, ih]
        by_cases hentry : entry.1 = key
        · subst hentry
          rw [if_neg hkeep, if_neg hkeep]
        · rw [if_neg hentry]

/-- Where the keys differ, a filter hides the entries that it drops. -/
theorem get?_filter {table : Table κ α} (hnodup : (table.map Prod.fst).Nodup) (keep : κ × α → Bool)
    (key : κ) :
    Table.get? (table.filter keep) key = (table.get? key).filter fun value => keep (key, value) := by
  induction table with
  | nil => rfl
  | cons entry rest ih =>
      obtain ⟨first, value⟩ := entry
      rw [List.map_cons, List.nodup_cons] at hnodup
      have hrest := ih hnodup.2
      by_cases hkey : first = key
      · subst hkey
        have hnone : Table.get? rest first = none := get?_eq_none_of_not_mem _ _ hnodup.1
        rw [hnone, Option.filter_none] at hrest
        rw [get?_cons, if_pos rfl, Option.filter_some]
        by_cases hkeep : keep (first, value) = true
        · rw [List.filter_cons_of_pos hkeep, get?_cons, if_pos rfl, if_pos hkeep]
        · rw [List.filter_cons_of_neg hkeep, hrest, if_neg hkeep]
      · rw [get?_cons, if_neg hkey, ← hrest]
        by_cases hkeep : keep (first, value) = true
        · rw [List.filter_cons_of_pos hkeep, get?_cons, if_neg hkey]
        · rw [List.filter_cons_of_neg hkeep]

theorem set_filter_keys (keep : κ → Bool) (table : Table κ α) (key : κ) (value : α)
    (hkeep : keep key = true) :
    Table.set key value (table.filter fun entry => keep entry.1)
      = (table.set key value).filter fun entry => keep entry.1 := by
  induction table with
  | nil => simp [Table.set, hkeep]
  | cons entry rest ih =>
      by_cases hkey : entry.1 = key
      · have hentry : keep entry.1 = true := hkey ▸ hkeep
        rw [List.filter_cons_of_pos (by exact hentry), Table.set, if_pos hkey, Table.set, if_pos hkey,
          List.filter_cons_of_pos (by exact hkeep)]
      · rw [Table.set, if_neg hkey]
        by_cases hentry : keep entry.1 = true
        · rw [List.filter_cons_of_pos (by exact hentry), List.filter_cons_of_pos (by exact hentry), Table.set,
            if_neg hkey, ih]
        · rw [List.filter_cons_of_neg (by exact hentry), List.filter_cons_of_neg (by exact hentry), ih]

end PromptCanvas.Table
