import Mathlib.Data.List.Perm.Subperm
import Mathlib.Logic.Relation
import PromptCanvas.Graph.Basic

set_option autoImplicit false

/-! # The search for descendants

`Graph.descendants` finds exactly what can be reached along child lists, the start left out
(`mem_descendants_iff`). Nothing is asked of the lists: they may repeat a child, name ids of no node and
run in circles.

The search takes one id off its queue for each unit of fuel. An id enters the queue when it is met for the
first time, so the queue's length and the number of listed ids not yet met bound the steps that are left;
`spread_closed` carries this bound through the recursion. -/

namespace PromptCanvas.Graph

/-- `child` stands in the child list of `parent`. -/
def Lists (g : Graph) (parent child : NodeId) : Prop := child ∈ g.childIds parent

/-! ## Unmet ids -/

theorem mem_unmet_iff (met l : List NodeId) (x : NodeId) : x ∈ unmet met l ↔ x ∈ l ∧ x ∉ met := by
  induction l generalizing met with
  | nil => simp [unmet]
  | cons id rest ih =>
      simp only [unmet]
      split
      · next hmet =>
          rw [ih, List.mem_cons]
          constructor
          · exact fun h => ⟨Or.inr h.1, h.2⟩
          · rintro ⟨rfl | hrest, hx⟩
            · exact absurd hmet hx
            · exact ⟨hrest, hx⟩
      · next hmet =>
          rw [List.mem_cons, ih, List.mem_cons, List.mem_cons, not_or]
          constructor
          · rintro (rfl | ⟨hrest, _, hx⟩)
            · exact ⟨Or.inl rfl, hmet⟩
            · exact ⟨Or.inr hrest, hx⟩
          · rintro ⟨rfl | hrest, hx⟩
            · exact Or.inl rfl
            · by_cases he : x = id
              · exact Or.inl he
              · exact Or.inr ⟨hrest, he, hx⟩

theorem nodup_unmet (met l : List NodeId) : (unmet met l).Nodup := by
  induction l generalizing met with
  | nil => simp [unmet]
  | cons id rest ih =>
      simp only [unmet]
      split
      · exact ih met
      · refine List.nodup_cons.2 ⟨fun h => ?_, ih (id :: met)⟩
        exact ((mem_unmet_iff (id :: met) rest id).1 h).2 List.mem_cons_self

/-! ## What the search finds can be reached -/

theorem spread_sound (g : Graph) (fuel : Nat) (met queue : List NodeId) (x : NodeId)
    (h : x ∈ spread g.childLists fuel met queue) :
    x ∉ met ∧ ∃ start ∈ queue, Relation.TransGen g.Lists start x := by
  -- along the recursion of the search; what waits in the queue was itself reached from a start
  induction fuel generalizing met queue with
  | zero => simp [spread] at h
  | succ fuel ih =>
      cases queue with
      | nil => simp [spread] at h
      | cons id queue =>
          simp only [spread, List.mem_append] at h
          rcases h with hfresh | hlater
          · obtain ⟨hlisted, hmet⟩ := (mem_unmet_iff met (g.childIds id) x).1 hfresh
            exact ⟨hmet, id, List.mem_cons_self, Relation.TransGen.single hlisted⟩
          · obtain ⟨hmet, start, hstart, hreach⟩ := ih _ _ hlater
            simp only [List.mem_append, List.mem_reverse, not_or] at hmet
            refine ⟨hmet.2, ?_⟩
            rcases List.mem_append.1 hstart with hqueue | hfresh
            · exact ⟨start, List.mem_cons_of_mem _ hqueue, hreach⟩
            · obtain ⟨hlisted, _⟩ := (mem_unmet_iff met (g.childIds id) start).1 hfresh
              exact ⟨id, List.mem_cons_self, Relation.TransGen.head hlisted hreach⟩

theorem nodup_spread (g : Graph) (fuel : Nat) (met queue : List NodeId) :
    (spread g.childLists fuel met queue).Nodup := by
  induction fuel generalizing met queue with
  | zero => exact List.nodup_nil
  | succ fuel ih =>
      cases queue with
      | nil => exact List.nodup_nil
      | cons id queue =>
          refine List.nodup_append.2 ⟨nodup_unmet met (g.childIds id), ih _ _, ?_⟩
          rintro x hfresh _ hlater rfl
          -- what is found later was not met by then
          obtain ⟨hmet, _⟩ := spread_sound g fuel _ _ x hlater
          exact hmet (List.mem_append_left _ (List.mem_reverse.2 hfresh))

/-! ## What can be reached is found -/

/-- All ids in child lists, as often as they are listed. -/
def entries (lists : Table NodeId (List NodeId)) : List NodeId := lists.flatMap Prod.snd

theorem length_entries (lists : Table NodeId (List NodeId)) :
    (entries lists).length = listed lists := by
  induction lists with
  | nil => rfl
  | cons entry rest ih =>
      show (entry.2 ++ entries rest).length = entry.2.length + listed rest
      rw [List.length_append, ih]

theorem mem_entries_of_lists {g : Graph} {parent child : NodeId} (h : g.Lists parent child) :
    child ∈ entries g.childLists := by
  unfold Lists Graph.childIds at h
  unfold entries
  generalize g.childLists = lists at h ⊢
  induction lists with
  | nil => simp [Table.get?] at h
  | cons entry rest ih =>
      rw [List.flatMap_cons, List.mem_append]
      simp only [Table.get?] at h
      split at h
      · exact Or.inl (by simpa using h)
      · exact Or.inr (ih h)

/-- Meeting different ids for the first time leaves that many fewer to be met. -/
theorem countP_unmet_add_length_le (all met fresh : List NodeId) (hnodup : fresh.Nodup)
    (hall : ∀ x ∈ fresh, x ∈ all) (hmet : ∀ x ∈ fresh, x ∉ met) :
    all.countP (fun x => x ∉ fresh.reverse ++ met) + fresh.length
      ≤ all.countP (fun x => x ∉ met) := by
  -- of the ids not met before, the fresh ones are met now
  have hsplit : all.countP (fun x => x ∉ met)
      = (all.filter fun x => x ∉ met).countP (fun x => x ∈ fresh)
        + (all.filter fun x => x ∉ met).countP (fun x => x ∉ fresh) := by
    rw [List.countP_eq_length_filter,
      List.length_eq_countP_add_countP (fun x => decide (x ∈ fresh))]
    simp
  have hfresh : fresh.length ≤ (all.filter fun x => x ∉ met).countP (fun x => x ∈ fresh) := by
    rw [List.countP_eq_length_filter]
    refine (List.subperm_of_subset hnodup fun x hx => ?_).length_le
    simp only [List.mem_filter, decide_eq_true_eq]
    exact ⟨⟨hall x hx, hmet x hx⟩, hx⟩
  have hrest : all.countP (fun x => x ∉ fresh.reverse ++ met)
      = (all.filter fun x => x ∉ met).countP (fun x => x ∉ fresh) := by
    rw [List.countP_filter]
    refine List.countP_congr fun x _ => ?_
    simp [not_or]
  omega

/-- The children of an id that are met for the first time are that many fewer to be met. -/
theorem countP_unmet_childIds_le (g : Graph) (met : List NodeId) (id : NodeId) :
    (entries g.childLists).countP (fun x => x ∉ (unmet met (g.childIds id)).reverse ++ met)
        + (unmet met (g.childIds id)).length
      ≤ (entries g.childLists).countP fun x => x ∉ met := by
  have hunmet := mem_unmet_iff met (g.childIds id)
  refine countP_unmet_add_length_le _ met _ (nodup_unmet met (g.childIds id)) (fun x hx => ?_) fun x hx => ?_
  · exact mem_entries_of_lists ((hunmet x).1 hx).1
  · exact ((hunmet x).1 hx).2

/-- With fuel for the queue and for all ids still to be met, the search ends closed under child lists. -/
theorem spread_closed (g : Graph) (fuel : Nat) (met queue : List NodeId)
    (hfuel : queue.length + (entries g.childLists).countP (fun x => x ∉ met) ≤ fuel) :
    ∀ x ∈ queue ++ spread g.childLists fuel met queue, ∀ child, g.Lists x child →
      child ∈ met ++ spread g.childLists fuel met queue := by
  -- the fuel covers the queue and the ids not met yet: each step takes one id off the queue, and what it
  -- puts on the queue is met by then
  induction fuel generalizing met queue with
  | zero =>
      have hqueue : queue = [] := List.eq_nil_of_length_eq_zero (by omega)
      subst hqueue
      simp [spread]
  | succ fuel ih =>
      cases queue with
      | nil => simp [spread]
      | cons id queue =>
          have hunmet := mem_unmet_iff met (g.childIds id)
          have hcount := countP_unmet_childIds_le g met id
          simp only [spread]
          rw [show (g.childLists.get? id).getD [] = g.childIds id from rfl]
          -- the fresh ids stand twice in the goal, once as found and once on the queue
          generalize unmet met (g.childIds id) = fresh at hunmet hcount ⊢
          have hclosed := ih (fresh.reverse ++ met) (queue ++ fresh) (by
            rw [List.length_cons] at hfuel
            rw [List.length_append]
            omega)
          intro x hx child hchild
          rcases List.mem_append.1 hx with hqueue | hfound
          · rcases List.mem_cons.1 hqueue with rfl | hqueue
            · by_cases hmet : child ∈ met
              · exact List.mem_append_left _ hmet
              · exact List.mem_append_right _
                  (List.mem_append_left _ ((hunmet child).2 ⟨hchild, hmet⟩))
            · have := hclosed x (by simp [hqueue]) child hchild
              simp only [List.mem_append, List.mem_reverse] at this ⊢
              tauto
          · have := hclosed x (by
              simp only [List.mem_append] at hfound ⊢
              tauto) child hchild
            simp only [List.mem_append, List.mem_reverse] at this ⊢
            tauto

/-- The fuel of the search for descendants covers its start and all listed ids. -/
theorem length_add_countP_le_listed (g : Graph) (id : NodeId) :
    [id].length + (entries g.childLists).countP (fun x => x ∉ [id]) ≤ listed g.childLists + 1 := by
  have := List.countP_le_length (p := fun x => decide (x ∉ [id])) (l := entries g.childLists)
  rw [length_entries] at this
  rw [List.length_singleton]
  omega

/-- The descendants of an id are what is reached from it along child lists, and not the id itself. -/
theorem mem_descendants_iff (g : Graph) (id x : NodeId) :
    x ∈ g.descendants id ↔ x ≠ id ∧ Relation.TransGen g.Lists id x := by
  have hclosed := spread_closed g (listed g.childLists + 1) [id] [id] (length_add_countP_le_listed g id)
  constructor
  · intro h
    obtain ⟨hmet, start, hstart, hreach⟩ := spread_sound g _ _ _ x h
    rw [List.mem_singleton] at hmet hstart
    exact ⟨hmet, hstart ▸ hreach⟩
  · rintro ⟨hne, hreach⟩
    have hmem : x ∈ [id] ++ g.descendants id := by
      induction hreach with
      | single hlisted => exact hclosed id (by simp) _ hlisted
      | @tail y z _ hlisted ih =>
          by_cases hy : y = id
          · subst hy
            exact hclosed y (by simp) z hlisted
          · exact hclosed y (ih hy) z hlisted
    rcases List.mem_append.1 hmem with hid | hfound
    · exact absurd (List.mem_singleton.1 hid) hne
    · exact hfound

theorem nodup_descendants (g : Graph) (id : NodeId) : (g.descendants id).Nodup := nodup_spread g _ _ _

end PromptCanvas.Graph
