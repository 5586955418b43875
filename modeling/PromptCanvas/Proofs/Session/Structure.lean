import PromptCanvas.Proofs.Graph.Forest
import PromptCanvas.Proofs.Session.Run

set_option autoImplicit false

/-! # The forest of a session

Whatever happens in a session, its graph shows what a plain list of nodes with parent references would
show: a forest, in the order in which the nodes were created. -/

namespace PromptCanvas.Session

/-- Every reached graph is a forest that all its readings agree on. Its nodes are those that were created
    and still live, in the order of their creation, and no id was given twice. -/
theorem reached_forest (settings : Settings) (registry : Registry) (strict : Bool) (draws : Draws)
    (moves : List Move) :
    let start := opening settings registry strict draws
    let reached := (start.after moves).graph
    reached.Forest ∧ reached.nodes.map Node.id = (start.created moves).filter reached.has ∧
      (start.created moves).Nodup := by
  intro start reached
  have hsound : start.graph.Sound := sound_opening settings registry strict draws
  obtain ⟨changes, path, hadded⟩ := after_path hsound moves
  refine ⟨(sound_after hsound moves).forest, ?_, ?_⟩
  · have hids := path.ids hsound
    rw [hadded] at hids
    exact hids
  · rw [← hadded]
    exact path.nodup_added.1

end PromptCanvas.Session
