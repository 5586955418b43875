import PromptCanvas.Proofs.Session.Run
import PromptCanvas.Proofs.Studio.Frame

set_option autoImplicit false

/-! # How far the effects of operations reach

What is done to a node has effects on the node and on what is below it, and nowhere else. An addition has
none on what is there. Where a node came from is settled when it is added. -/

namespace PromptCanvas.Session

/-- In every reached session: an operation on a node, and the reply to an errand for one, spare all that is
    outside its subtree; an addition leaves all that is there as it is; and whatever happens later, a node
    that lives on has the same id, kind, parent and time of addition. -/
theorem effects_stay_in_subtree (settings : Settings) (registry : Registry) (strict : Bool) (draws : Draws)
    (moves : List Move) :
    let reached := (opening settings registry strict draws).after moves
    (∀ id operation, operation.target? = some id →
        Graph.Spares id reached.graph (reached.studio.perform operation).1.graph) ∧
      (∀ id errand service seen, errand.target? = some id →
        Graph.Spares id reached.graph (reached.studio.resume service seen errand).2.graph) ∧
      (∀ kind parent fields,
        Graph.Extends reached.graph (reached.studio.perform (.add kind parent fields)).1.graph) ∧
      ∀ later id node node', reached.graph.get? id = some node →
        (reached.after later).graph.get? id = some node' →
          node'.id = node.id ∧ node'.kind = node.kind ∧ node'.parent = node.parent ∧
            node'.created = node.created := by
  intro reached
  have hsound : reached.graph.Sound := sound_after (sound_opening settings registry strict draws) moves
  refine ⟨?_, ?_, ?_, ?_⟩
  · intro id operation htarget
    obtain ⟨_, path⟩ := Studio.perform_within hsound htarget
    exact path.spares hsound
  · intro id errand service seen htarget
    obtain ⟨_, path⟩ := Studio.resume_within htarget service seen
    exact path.spares hsound
  · intro kind parent fields
    exact hsound.extends_add _ kind parent fields
  · intro later id node node' hnode hnode'
    obtain ⟨_, path, _⟩ := after_path hsound later
    obtain ⟨before, hbefore, hfixed⟩ := path.retains hsound (Or.inl (Graph.mem_ids_of_get? hnode))
      (fun _ change _ => change.leaves_fixed id) node' hnode'
    obtain rfl : node = before := Option.some.inj (hnode.symm.trans hbefore)
    simp only [Node.fixed, Prod.mk.injEq] at hfixed
    exact ⟨(Graph.id_of_get? hnode').trans (Graph.id_of_get? hnode).symm, hfixed⟩

/-- Of two children one is deleted: the other one is spared, and is now the only child. -/
theorem effects_stay_in_subtree_of_sibling :
    let moves : List Move :=
      [.perform (.add (.str "source-generate") none []),
        .perform (.add (.str "op-prompt-magic") (some "node-000000000001") []),
        .perform (.add (.str "op-veo-video") (some "node-000000000001") [])]
    let draws : Draws := { given := ["000000000001", "000000000002", "000000000003"] }
    let reached := (opening {} {} false draws).after moves
    let deleted := (reached.studio.perform (.delete "node-000000000002")).1.graph
    (Operation.delete "node-000000000002").target? = some "node-000000000002" ∧
      reached.graph.childIds "node-000000000001" = ["node-000000000002", "node-000000000003"] ∧
      deleted.childIds "node-000000000001" = ["node-000000000003"] ∧
      Graph.Spares "node-000000000002" reached.graph deleted := by
  intro moves draws reached deleted
  have htarget : (Operation.delete "node-000000000002").target? = some "node-000000000002" := rfl
  refine ⟨htarget, by decide +kernel, by decide +kernel, ?_⟩
  exact (effects_stay_in_subtree {} {} false draws moves).1 _ _ htarget

end PromptCanvas.Session
