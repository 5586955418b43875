import PromptCanvas.Proofs.Table
import PromptCanvas.Proofs.Validation.Checked
import PromptCanvas.Validation.Sendable

set_option autoImplicit false

/-! # Checks of values that can be sent back

A fault tells what was given. Where all that was given can be sent back, so can the faults of a check, and what is
read as a position or as metadata can be sent back too. -/

namespace PromptCanvas

/-! ## Values -/

namespace Json

variable {value : Json} {items : List Json} {fields : Fields}

theorem itemsParts_eq_flatMap : itemsParts items = items.flatMap parts := by
  induction items with
  | nil => rfl
  | cons item rest ih => rw [itemsParts, ih, List.flatMap_cons]

theorem fieldsParts_eq_flatMap :
    fieldsParts fields = fields.flatMap fun entry => ofWriting entry.1 :: entry.2.parts := by
  induction fields with
  | nil => rfl
  | cons entry rest ih =>
      obtain ⟨name, value⟩ := entry
      rw [fieldsParts, ih, List.flatMap_cons, List.cons_append]

theorem isSendable_arr_iff : (arr items).isSendable = true ↔ ∀ item ∈ items, item.isSendable = true := by
  rw [isSendable, parts, itemsParts_eq_flatMap, List.all_flatMap, List.all_eq_true]
  rfl

theorem isSendable_obj_iff :
    (obj fields).isSendable = true ↔ ∀ entry ∈ fields, entry.1.isWhole = true ∧ entry.2.isSendable = true := by
  rw [isSendable, parts, fieldsParts_eq_flatMap, List.all_flatMap, List.all_eq_true]
  refine forall₂_congr fun entry _ => ?_
  obtain ⟨name, value⟩ := entry
  rw [List.all_cons, Bool.and_eq_true]
  cases name <;> exact Iff.rfl

theorem isSendable_ofTable {table : Table String Json} (h : ∀ entry ∈ table, entry.2.isSendable = true) :
    (ofTable table).isSendable = true := by
  refine isSendable_obj_iff.2 fun entry hentry => ?_
  obtain ⟨given, hgiven, rfl⟩ := List.mem_map.1 hentry
  exact ⟨rfl, h given hgiven⟩

/-- Of names that become alike, one value is told, and it is one of the table's. -/
theorem exists_of_mem_mended {α : Type} {table : Table Writing α} {entry : String × α}
    (h : entry ∈ table.mended) : ∃ given ∈ table, given.2 = entry.2 := by
  obtain ⟨given, hgiven, heq⟩ := List.mem_map.1 (Table.mem_of_mem_ofEntries h)
  exact ⟨given, hgiven, congrArg Prod.snd heq⟩

mutual

theorem isSendable_presented : (value : Json) → value.isSendable = true → value.presented.isSendable = true
  | .null | .bool _ | .int _ | .str _ | .torn _ => fun h => h
  | .float x => by
      intro h
      rw [presented]
      split
      · exact h
      · rfl
  | .arr items => fun h => isSendable_arr_iff.2 (isSendable_presentedItems items (isSendable_arr_iff.1 h))
  | .obj fields => by
      intro h
      refine isSendable_ofTable fun entry hentry => ?_
      obtain ⟨given, hgiven, heq⟩ := exists_of_mem_mended hentry
      rw [← heq]
      exact isSendable_presentedFields fields (isSendable_obj_iff.1 h) given hgiven

theorem isSendable_presentedItems : (items : List Json) → (∀ item ∈ items, item.isSendable = true) →
    ∀ item ∈ presentedItems items, item.isSendable = true
  | [], _ => fun _ hitem => absurd hitem List.not_mem_nil
  | item :: rest, h => by
      obtain ⟨hitem, hrest⟩ := List.forall_mem_cons.1 h
      exact List.forall_mem_cons.2 ⟨isSendable_presented item hitem, isSendable_presentedItems rest hrest⟩

theorem isSendable_presentedFields : (fields : Fields) →
    (∀ entry ∈ fields, entry.1.isWhole = true ∧ entry.2.isSendable = true) →
    ∀ entry ∈ presentedFields fields, entry.2.isSendable = true
  | [], _ => fun _ hentry => absurd hentry List.not_mem_nil
  | (_, value) :: rest, h => by
      obtain ⟨hvalue, hrest⟩ := List.forall_mem_cons.1 h
      exact List.forall_mem_cons.2
        ⟨isSendable_presented value hvalue.2, isSendable_presentedFields rest hrest⟩

end

/-! ### Given fields -/

theorem isSendable_of_givesSendable (h : givesSendable fields = true) : (obj fields).isSendable = true :=
  (Bool.and_eq_true_iff.1 h).1

theorem isSendable_of_mem {entry : Writing × Json} (h : givesSendable fields = true) (hmem : entry ∈ fields) :
    entry.2.isSendable = true :=
  (isSendable_obj_iff.1 (isSendable_of_givesSendable h) entry hmem).2

theorem placesFinite_of_mem {value : Json} (h : givesSendable fields = true)
    (hmem : (Writing.whole "position", value) ∈ fields) : value.placesFinite = true := by
  have hplaces := List.all_eq_true.1 (Bool.and_eq_true_iff.1 h).2 _ hmem
  simpa using hplaces

end Json

/-! ## Faults -/

namespace Checked

variable {α β : Type} {c : Checked α}

/-- All that the faults tell of can be sent back. -/
def TellsSendable (c : Checked α) : Prop := ∀ fault ∈ c.faults, fault.given.isSendable = true

theorem tellsSendable_ok (a : α) : (ok a).TellsSendable := fun _ hfault => absurd hfault List.not_mem_nil

theorem TellsSendable.map (h : c.TellsSendable) (f : α → β) : (c.map f).TellsSendable := by
  cases c with
  | ok a => exact tellsSendable_ok _
  | faulty faults => exact h

theorem TellsSendable.andThen (h : c.TellsSendable) {f : α → Checked β} (hf : ∀ a, (f a).TellsSendable) :
    (c.andThen f).TellsSendable := by
  cases c with
  | ok a => exact hf a
  | faulty faults => exact h

theorem TellsSendable.app {f : Checked (α → β)} (hf : f.TellsSendable) (h : c.TellsSendable) :
    (f.app c).TellsSendable := by
  cases f with
  | ok f =>
      cases c with
      | ok a => exact tellsSendable_ok _
      | faulty faults => exact h
  | faulty faults =>
      cases c with
      | ok a => exact hf
      | faulty later =>
          intro told htold
          exact (List.mem_append.1 htold).elim (hf told) (h told)

theorem TellsSendable.under (h : c.TellsSendable) (step : PathStep) : (c.under step).TellsSendable := by
  cases c with
  | ok a => exact tellsSendable_ok a
  | faulty faults =>
      intro told htold
      obtain ⟨before, hbefore, rfl⟩ := List.mem_map.1 htold
      exact h before hbefore

end Checked

/-! ## Checks -/

namespace Value

open Checked

variable {value : Json}

section

variable (h : value.isSendable = true)
include h

end

/-! ## Fields -/

variable {α : Type} {fields : Json.Fields} {check : Json → Checked α}

theorem eq_obj_of_object {fields : Json.Fields} (h : object value = .ok fields) : value = .obj fields := by
  cases value with
  | obj given => rw [Checked.ok.inj h]
  | null | bool | int | float | str | torn | arr => simp [object, fault] at h

/-- What is read as a position from a value that can be sent back, and that places finitely, has whole names and
    finite numbers. -/
theorem sendable_of_reals (h : value.isSendable = true) (hplaces : value.placesFinite = true)
    {position : Table Writing Binary64} (hread : reals value = .ok position) :
    ∀ entry ∈ position, entry.1.isWhole = true ∧ entry.2.isFinite = true := by
  cases value with
  | obj fields =>
      rw [reals, object, andThen, all_eq_ok_iff] at hread
      intro entry hentry
      have hmem : Checked.ok entry ∈ position.map Checked.ok := List.mem_map_of_mem hentry
      rw [← hread] at hmem
      obtain ⟨given, hgiven, hreal⟩ := List.mem_map.1 hmem
      obtain ⟨x, hx, rfl⟩ := map_eq_ok_iff.1 (under_eq_ok_iff.1 hreal)
      have hfinite := List.all_eq_true.1 hplaces given hgiven
      rw [Json.readsFinite, hx] at hfinite
      exact ⟨(Json.isSendable_obj_iff.1 h given hgiven).1, hfinite⟩
  | null | bool | int | float | str | torn | arr => simp [reals, object, andThen, fault] at hread

end Value

end PromptCanvas
