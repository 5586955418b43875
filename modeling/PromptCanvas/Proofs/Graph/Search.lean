import Mathlib.Logic.Function.Iterate
import PromptCanvas.Proofs.Graph.Reach

set_option autoImplicit false

/-! # The turns of the search for descendants

The search takes one id off its queue at each turn, until the queue is empty. It ends whatever the child lists
are (`exists_turns`): an id is queued when it is met for the first time, so that the queue and the listed ids
that are not met yet, taken together, become fewer with each turn. -/

namespace PromptCanvas.Graph

/-- Where a search stands. -/
structure Search where
  /-- The ids found so far. -/
  found : List NodeId
  /-- The start, and the ids found so far. -/
  met : List NodeId
  /-- The ids whose children are still to be read. -/
  queue : List NodeId

namespace Search

/-- The search before its first turn. -/
def start (id : NodeId) : Search := ⟨[], [id], [id]⟩

/-- One turn: an id is taken off the queue, and those of its children that are not met yet are found and queued.
    Without an id on the queue nothing happens. -/
def turn (g : Graph) (search : Search) : Search :=
  match search.queue with
  | [] => search
  | id :: queue =>
      let fresh := unmet search.met (g.childIds id)
      ⟨search.found ++ fresh, fresh.reverse ++ search.met, queue ++ fresh⟩

variable (g : Graph)

theorem turn_of_queue_nil {search : Search} (h : search.queue = []) : search.turn g = search := by
  unfold turn
  rw [h]

theorem turn_of_queue_cons {search : Search} {id : NodeId} {queue : List NodeId} (h : search.queue = id :: queue) :
    search.turn g = ⟨search.found ++ unmet search.met (g.childIds id),
      (unmet search.met (g.childIds id)).reverse ++ search.met, queue ++ unmet search.met (g.childIds id)⟩ := by
  unfold turn
  rw [h]

/-- What a search can still have to do: the ids on its queue, and those that may yet be met. -/
def ahead (search : Search) : Nat :=
  search.queue.length + (entries g.childLists).countP fun x => x ∉ search.met

theorem ahead_turn_lt {search : Search} (h : search.queue ≠ []) : (search.turn g).ahead g < search.ahead g := by
  obtain ⟨id, queue, hqueue⟩ := List.exists_cons_of_ne_nil h
  have hcount := countP_unmet_childIds_le g search.met id
  rw [turn_of_queue_cons g hqueue]
  unfold ahead
  rw [hqueue]
  simp only [List.length_append, List.length_cons]
  omega

theorem queue_turns (turns : Nat) (search : Search) (h : search.ahead g ≤ turns) :
    ((turn g)^[turns] search).queue = [] := by
  induction turns generalizing search with
  | zero =>
      refine List.eq_nil_of_length_eq_zero ?_
      unfold ahead at h
      exact Nat.eq_zero_of_le_zero (Nat.le_trans (Nat.le_add_right _ _) h)
  | succ turns ih =>
      rw [Function.iterate_succ_apply]
      by_cases hqueue : search.queue = []
      · rw [turn_of_queue_nil g hqueue, Function.iterate_fixed (turn_of_queue_nil g hqueue)]
        exact hqueue
      · exact ih _ (by have := ahead_turn_lt g hqueue; omega)

/-- What is found in some turns is what is found with as much fuel. -/
theorem found_turns (turns : Nat) (search : Search) :
    ((turn g)^[turns] search).found = search.found ++ spread g.childLists turns search.met search.queue := by
  induction turns generalizing search with
  | zero => simp [spread]
  | succ turns ih =>
      rw [Function.iterate_succ_apply, ih]
      cases hqueue : search.queue with
      | nil =>
          have hspread : ∀ fuel, spread g.childLists fuel search.met [] = [] := fun fuel => by
            cases fuel <;> rfl
          rw [turn_of_queue_nil g hqueue, hqueue, hspread, hspread]
      | cons id queue =>
          rw [turn_of_queue_cons g hqueue, List.append_assoc]
          rfl

/-- The search for descendants ends, after at most one turn for its start and for each listed id, and it has
    found the descendants. -/
theorem exists_turns (id : NodeId) :
    ∃ turns ≤ listed g.childLists + 1, ((turn g)^[turns] (start id)).queue = [] ∧
      ((turn g)^[turns] (start id)).found = g.descendants id :=
  ⟨listed g.childLists + 1, Nat.le_refl _, queue_turns g _ _ (length_add_countP_le_listed g id),
    found_turns g _ (start id)⟩

end Search

end PromptCanvas.Graph
