import PromptCanvas.Proofs.Session.Run
import PromptCanvas.Proofs.Studio.Deed

set_option autoImplicit false

/-! # Deeds that commute in a session

In every reached session no parent has two lists of children. So two deeds on nodes that are apart commute
there: what is done to one node, or comes back for it, can be swapped with what is done to another node that is
neither above nor below. -/

namespace PromptCanvas.Session

variable {session : Session}

theorem keyed_after (hsound : session.graph.Sound) (hkeyed : session.graph.Keyed) (moves : List Move) :
    (session.after moves).graph.Keyed := by
  obtain ⟨_, path, _⟩ := after_path hsound moves
  exact path.keyed hkeyed

theorem keyed_opening (settings : Settings) (registry : Registry) (strict : Bool) (draws : Draws) :
    (opening settings registry strict draws).graph.Keyed := List.nodup_nil

/-- In every reached session, two deeds on nodes of which neither is the other one or below it can be done in
    either order: each of them brings the same, and the studio is the same in the end, with the order of its
    nodes, edges and children, apart from when nodes were stamped. -/
theorem deeds_commute (settings : Settings) (registry : Registry) (strict : Bool) (draws : Draws)
    (moves : List Move) :
    let reached := (opening settings registry strict draws).after moves
    ∀ first second : Deed, second.target ≠ first.target →
      second.target ∉ reached.graph.descendants first.target →
      first.target ∉ reached.graph.descendants second.target →
        let one := reached.studio.enact first
        let other := reached.studio.enact second
        let oneOther := one.2.enact (second.seeing one.2.graph)
        let otherOne := other.2.enact (first.seeing other.2.graph)
        one.1.Alike otherOne.1 ∧ other.1.Alike oneOther.1 ∧
          oneOther.2.untimed = otherOne.2.untimed := by
  intro reached first second hne hout hout'
  have hsound : reached.graph.Sound := sound_after (sound_opening settings registry strict draws) moves
  have hkeyed : reached.graph.Keyed :=
    keyed_after (sound_opening settings registry strict draws) (keyed_opening settings registry strict draws) moves
  exact Studio.enact_comm hsound hkeyed hne hout hout'

/-- Of two children one is running and the other one is deleted: the run is completed to the same before and
    after that. -/
theorem deeds_commute_of_siblings :
    let moves : List Move :=
      [.perform (.add (.str "source-generate") none []),
        .perform (.add (.str "source-generate") (some "node-000000000001") []),
        .perform (.add (.str "op-veo-video") (some "node-000000000001") []),
        .perform (.run "node-000000000002" (some "a cat") none)]
    let draws : Draws := { given := ["000000000001", "000000000002", "000000000003", "first"] }
    let reached := (opening {} {} false draws).after moves
    let ticket : Ticket := ⟨"node-000000000002", "first", .image "a cat" "1:1"⟩
    let service : Service :=
      ⟨fun _ _ => .ok [1], fun _ _ => .ok "", fun _ => .ok "", fun _ _ _ => .ok [], Json.stackRoom⟩
    let completion : Deed := .complete ticket service
    let deletion : Deed := .delete "node-000000000003"
    let completed := reached.studio.enact completion
    let deleted := reached.studio.enact deletion
    ticket ∈ reached.inFlight ∧ deletion.target ≠ completion.target ∧
      deletion.target ∉ reached.graph.descendants completion.target ∧
      completion.target ∉ reached.graph.descendants deletion.target ∧
      (completed.2.enact deletion).2.graph.nodes.map (fun node => (node.id, node.status))
        = [("node-000000000001", .idle), ("node-000000000002", .ready)] ∧
      completed.1.Alike (deleted.2.enact completion).1 ∧
      deleted.1.Alike (completed.2.enact deletion).1 ∧
      (completed.2.enact deletion).2.untimed = (deleted.2.enact completion).2.untimed := by
  intro moves draws reached ticket service completion deletion completed deleted
  have hne : deletion.target ≠ completion.target := by decide +kernel
  have hout : deletion.target ∉ reached.graph.descendants completion.target := by decide +kernel
  have hout' : completion.target ∉ reached.graph.descendants deletion.target := by decide +kernel
  refine ⟨by decide +kernel, hne, hout, hout', by decide +kernel, ?_⟩
  exact deeds_commute {} {} false draws moves completion deletion hne hout hout'

end PromptCanvas.Session
