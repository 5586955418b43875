import PromptCanvas.Proofs.Graph.Assignment
import PromptCanvas.Proofs.Session.Execution

set_option autoImplicit false

/-! # Updates in a session

In every reached session an update writes all that it names, or it is refused and nothing has happened. The
graph that an update leaves is the one that its two passes of assignments lead to. -/

namespace PromptCanvas

/-- A studio accepts an update as its two passes leave it. -/
theorem Studio.perform_update {studio : Studio} (hsound : studio.graph.Sound) (id : NodeId)
    (updates : Json.Fields) :
    studio.perform (.update id updates)
      = ({ studio with graph := (studio.graph.assign id updates).2 }, none) := by
  rw [Graph.assign_eq_update hsound.nodup, Studio.perform]
  cases studio.graph.update id updates <;> rfl

namespace Session

/-- In every reached session a value that was read for a field passes its check again and stays the same, and
    the second pass of an update ends, without fail, with the copy that the first pass has made. An update
    goes through where its node lives, no name in it is refused, and every value fits. If it does not, the
    session stays as it is. If it does, each named field holds what was read from its value; the other fields
    of the node, all other nodes and all edges are as they were. -/
theorem update_atomic (settings : Settings) (registry : Registry) (strict : Bool) (draws : Draws)
    (moves : List Move) :
    let reached := (opening settings registry strict draws).after moves
    (∀ field value edit, Edit.read field value = .ok edit → edit.field = field ∧ edit.recheck = .ok edit) ∧
      ∀ (id : NodeId) (updates : Json.Fields),
        let assigned := reached.graph.assign id updates
        let later := reached.step (.perform (.update id updates))
        (Graph.refusedNames updates = none → ∀ node copy : Node, node.assign updates = (none, copy) →
            copy.assignFrom node (Graph.namedFields updates) = (none, copy)) ∧
          later.graph = assigned.2 ∧
          (assigned.1 = none ↔
            reached.graph.has id = true ∧ Graph.refusedNames updates = none ∧
              ∀ entry ∈ updates, ∃ edit : Edit, edit.Answers entry) ∧
          (assigned.1 ≠ none → later = reached) ∧
          ((Table.keys updates).Nodup → assigned.1 = none →
            ∃ node after, reached.graph.get? id = some node ∧ node.Updated updates after ∧
              later.graph = { reached.graph with
                clock := reached.graph.clock + 1
                nodes := reached.graph.nodes.map fun other => if other.id = id then after else other }) := by
  intro reached
  have hsound : reached.graph.Sound := sound_after (sound_opening settings registry strict draws) moves
  refine ⟨fun field value edit hread => ⟨Edit.field_of_read hread, edit.recheck_eq⟩, ?_⟩
  intro id updates assigned later
  have hlater : later.graph = assigned.2 :=
    congrArg (fun left => (reached.enter left).graph) (Studio.perform_update hsound id updates)
  have haccepts : assigned.1 = none ↔ ∃ g', reached.graph.update id updates = .ok g' :=
    Graph.assign_accepted_iff hsound.nodup
  refine ⟨?second, hlater, haccepts.trans Graph.exists_update_iff, ?refused, ?written⟩
  case second =>
    intro hnames node copy hcopy
    exact Node.assignFrom_of_assign (fun _ => Graph.exists_field_of_refusedNames hnames) hcopy
  case refused =>
    intro hrefused
    refine step_perform_refused ?_
    simp only [Studio.perform]
    cases hupdate : reached.graph.update id updates with
    | error r => rfl
    | ok g' => exact absurd (haccepts.2 ⟨g', hupdate⟩) hrefused
  case written =>
    intro hkeys haccepted
    obtain ⟨g', hupdate⟩ := haccepts.1 haccepted
    obtain ⟨node, after, hnode, hafter, hgraph⟩ := Graph.updated_of_update hsound.nodup hkeys hupdate
    refine ⟨node, after, hnode, hafter, hlater.trans ?_⟩
    have hassigned : assigned = _ := Graph.assign_eq_update hsound.nodup
    rw [hassigned, hupdate]
    exact hgraph

/-- A word stands for a truth value, and a text for a number. -/
theorem update_atomic_of_root :
    let moves : List Move := [.perform (.add (.str "source-generate") none [])]
    let draws : Draws := { given := ["000000000001"] }
    let reached := (opening {} {} false draws).after moves
    let id : NodeId := "node-000000000001"
    let updates : Json.Fields :=
      [("video_complete", .str "yes"), ("position", .obj [("x", .str "2.5")]), ("prompt", .str "a crow")]
    (Table.keys updates).Nodup ∧ Graph.refusedNames updates = none ∧
      (reached.graph.assign id updates).1 = none ∧
      ∃ node after, reached.graph.get? id = some node ∧ node.Updated updates after ∧
        after.videoComplete = true := by
  intro moves draws reached id updates
  have hkeys : (Table.keys updates).Nodup := by decide +kernel
  have hnames : Graph.refusedNames updates = none := by decide +kernel
  have haccepted : (reached.graph.assign id updates).1 = none := by decide +kernel
  refine ⟨hkeys, hnames, haccepted, ?_⟩
  obtain ⟨node, after, hnode, hafter, _⟩ :=
    ((update_atomic {} {} false draws moves).2 id updates).2.2.2.2 hkeys haccepted
  refine ⟨node, after, hnode, hafter, ?_⟩
  obtain ⟨field, hfield, hread⟩ := hafter.named _ _ List.mem_cons_self
  obtain rfl : Field.videoComplete = field :=
    Option.some.inj ((Field.ofName?_name .videoComplete).symm.trans hfield)
  exact (Edit.videoComplete.inj (Checked.ok.inj hread)).symm

end Session

end PromptCanvas
