import PromptCanvas.Proofs.Graph.Lineage
import PromptCanvas.Proofs.Graph.Search
import PromptCanvas.Proofs.Session.Run

set_option autoImplicit false

/-! # Who is below whom

The descendants of a node are found along lists of children, and its ancestors along edges. Whatever the lists
are, the search for descendants ends with what can be reached along them; and in a session the two readings say
the same. -/

namespace PromptCanvas.Session

/-- In any graph, whatever its lists of children hold: the search for the descendants of an id ends, and they are
    the ids that are reached from it in one or more steps, each once and without the id itself. In every reached
    graph: an id is below another one if and only if that one is among its ancestors, which are the chain of
    parents up to the root, without repetition. -/
theorem descendants_exact :
    (∀ (g : Graph) (id : NodeId),
      (∃ turns ≤ Graph.listed g.childLists + 1,
        ((Graph.Search.turn g)^[turns] (.start id)).queue = [] ∧
          ((Graph.Search.turn g)^[turns] (.start id)).found = g.descendants id) ∧
        (g.descendants id).Nodup ∧
        ∀ x, x ∈ g.descendants id ↔ Relation.TransGen g.Lists id x ∧ x ≠ id) ∧
      ∀ (settings : Settings) (registry : Registry) (strict : Bool) (draws : Draws) (moves : List Move),
        let reached := ((opening settings registry strict draws).after moves).graph
        ∀ id x, (x ∈ reached.descendants id ↔ id ∈ reached.ancestors x) ∧
          reached.Lineage x (reached.ancestors x) ∧ (reached.ancestors x).Nodup := by
  refine ⟨fun g id => ⟨Graph.Search.exists_turns g id, g.nodup_descendants id, fun x => ?_⟩, ?_⟩
  · rw [g.mem_descendants_iff, and_comm]
  · intro settings registry strict draws moves reached id x
    have hsound : reached.Sound := sound_after (sound_opening settings registry strict draws) moves
    have hlineage := hsound.lineage_ancestors x
    exact ⟨hsound.mem_descendants_iff_mem_ancestors id x, hlineage, hlineage.nodup hsound⟩

end PromptCanvas.Session
