import PromptCanvas.Proofs.Graph.Deletion
import PromptCanvas.Proofs.Session.Commute

set_option autoImplicit false

/-! # What deletions take in a session

In every reached session a deletion takes the node with all below it, and invalidating takes all below it; the
rest of the graph stays as it is. Neither depends on the order in which the ids are gone through. -/

namespace PromptCanvas.Session

/-- In every reached graph: deleting an id takes its node and the descendants, or nothing if no node has the id;
    invalidating it takes the descendants, and the node stays with the edge to it. What was taken is lost from the
    graph, and nothing else, in whatever order the ids are removed. To delete the children of a node one by one, in
    any order, leaves the graph that invalidating the node leaves. -/
theorem deletion_exact (settings : Settings) (registry : Registry) (strict : Bool) (draws : Draws)
    (moves : List Move) :
    let reached := ((opening settings registry strict draws).after moves).graph
    ∀ id,
      ((reached.delete id).1 = (if reached.has id then id :: reached.descendants id else []) ∧
        reached.Loses (reached.delete id).1 (reached.delete id).2 ∧
        ∀ order : List NodeId, order.Perm (reached.delete id).1 →
          reached.remove order = (reached.delete id).2) ∧
      ((reached.invalidate id).1 = reached.descendants id ∧
        reached.Loses (reached.invalidate id).1 (reached.invalidate id).2 ∧
        (∀ order : List NodeId, order.Perm (reached.invalidate id).1 →
          reached.remove order = (reached.invalidate id).2) ∧
        (reached.invalidate id).2.get? id = reached.get? id ∧
        (reached.invalidate id).2.edgeTo? id = reached.edgeTo? id) ∧
      ∀ order : List NodeId, order.Perm (reached.childIds id) →
        order.foldl (fun graph child => (graph.delete child).2) reached = (reached.invalidate id).2 := by
  intro reached id
  have hopening := sound_opening settings registry strict draws
  have hsound : reached.Sound := sound_after hopening moves
  have hkeyed : reached.Keyed := keyed_after hopening (keyed_opening settings registry strict draws) moves
  refine ⟨⟨?ids, hsound.loses_delete id, fun order hperm => ?order⟩,
    ⟨rfl, hsound.loses_invalidate id, fun order => hsound.remove_perm hkeyed,
      hsound.get?_invalidate_self id, ?edge⟩,
    fun order hperm => hsound.foldl_delete_children hkeyed hperm⟩
  case ids =>
    unfold Graph.delete
    split <;> rfl
  case order =>
    rw [Graph.delete_snd]
    exact hsound.remove_perm hkeyed hperm
  case edge =>
    have hpruned : (reached.invalidate id).2.Sound := hsound.remove _
    rw [hpruned.edgeTo?_eq, hsound.edgeTo?_eq, hsound.get?_invalidate_self]

/-- Below a root are two children, and a grandchild below the first of them. The children are deleted with the
    second one first. -/
theorem deletion_exact_of_root :
    let moves : List Move :=
      [.perform (.add (.str "source-generate") none []),
        .perform (.add (.str "op-prompt-magic") (some "node-000000000001") []),
        .perform (.add (.str "op-veo-video") (some "node-000000000001") []),
        .perform (.add (.str "op-prompt-magic") (some "node-000000000002") [])]
    let draws : Draws := { given := ["000000000001", "000000000002", "000000000003", "000000000004"] }
    let reached := ((opening {} {} false draws).after moves).graph
    let root : NodeId := "node-000000000001"
    let order : List NodeId := ["node-000000000003", "node-000000000002"]
    order.Perm (reached.childIds root) ∧
      (reached.invalidate root).1 = ["node-000000000002", "node-000000000003", "node-000000000004"] ∧
      (order.foldl (fun graph child => (graph.delete child).2) reached).ids = [root] ∧
      order.foldl (fun graph child => (graph.delete child).2) reached = (reached.invalidate root).2 := by
  intro moves draws reached root order
  have horder : order.Perm (reached.childIds root) := by decide +kernel
  refine ⟨horder, by decide +kernel, by decide +kernel, ?_⟩
  exact (deletion_exact {} {} false draws moves root).2.2 order horder

end PromptCanvas.Session
