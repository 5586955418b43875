import PromptCanvas.Proofs.Graph.Assignment
import PromptCanvas.Proofs.Studio.Reply
import PromptCanvas.Proofs.Text.Trim

set_option autoImplicit false

/-! # Creative boosts

A boost is asked for of a live node that is not running and has a base prompt. No ticket and no generation
guard its reply, which may meet the node in any state. The reply is written to the enhanced prompt of the node
if it still lives, and to nothing else; whatever the node is doing goes on. -/

namespace PromptCanvas

/-- The record of a node's execution. -/
def Node.execution (node : Node) : Status × Option Failure × Option String :=
  (node.status, node.failure, node.generation)

namespace Graph

variable {g g' : Graph} {id : NodeId} {node : Node}

theorem execution_of_edit {edits : List Edit} (h : g.edit id edits = .ok g') (other : NodeId) :
    (g'.get? other).map Node.execution = (g.get? other).map Node.execution := by
  obtain ⟨_, rfl⟩ := edit_eq_ok_iff.1 h
  have hkept : ∀ n : Node, (n.applyAll edits).execution = n.execution := by
    intro n
    simp only [Node.execution, Node.applyAll_status, Node.applyAll_failure, Node.applyAll_generation]
  have hcomp : Node.execution ∘ g.altered id (·.applyAll edits) = Node.execution :=
    funext (altered_congr (·.applyAll edits) Node.execution hkept fun _ _ => rfl)
  rw [get?_alter (·.applyAll edits) (fun n => n.applyAll_id edits), Option.map_map, hcomp]

end Graph

namespace Studio

variable {studio : Studio} {id : NodeId} {node before : Node}

/-! ## Asking -/

theorem enhance_of_missing (hnode : studio.graph.get? id = none) :
    studio.enhance id = .done studio (.error (.notFound id)) := by
  simp only [enhance, hnode]

theorem enhance_of_running (hnode : studio.graph.get? id = some node) (hstatus : node.status = .running) :
    studio.enhance id = .done studio (.error (.busy id)) := by
  simp only [enhance, hnode, if_pos hstatus]

/-- A boost of a node that is not running waits for the service, unless the base prompt is blank. -/
theorem enhance_of_idle (hnode : studio.graph.get? id = some node) (hstatus : node.status ≠ .running) :
    studio.enhance id
      = if Text.blank (node.basePrompt.getD "") then
          .done studio (.error (.failed ⟨.emptyPrompt, nothingToBoost⟩))
        else .waiting studio (.boost node) fun result => result := by
  simp only [enhance, hnode, if_neg hstatus, Errand.boostBase, Text.trimmed_eq_empty_iff]

/-- Asking for a boost fails for want of a prompt exactly where a live node that is not running has a blank
    base prompt. -/
theorem enhance_eq_emptyPrompt_iff :
    (∃ asked message, studio.enhance id = .done asked (.error (.failed ⟨.emptyPrompt, message⟩))) ↔
      ∃ node, studio.graph.get? id = some node ∧ node.status ≠ .running ∧
        Text.blank (node.basePrompt.getD "") = true := by
  cases hnode : studio.graph.get? id with
  | none => simp [enhance_of_missing hnode]
  | some node =>
      by_cases hstatus : node.status = .running
      · simp [enhance_of_running hnode hstatus, hstatus]
      · rw [enhance_of_idle hnode hstatus]
        by_cases hblank : Text.blank (node.basePrompt.getD "") = true
        · simp [hblank, hstatus]
        · simp [hblank]

/-! ## The reply -/

/-- The reply to a boost of a live node: its enhanced prompt is written, and the node stamped. -/
theorem boosted_eq_of_get? (hnodup : studio.graph.ids.Nodup) (hnode : studio.graph.get? before.id = some node)
    (seen : List Graph) (text : String) :
    let after : Node := { node with
      enhancedPrompt := some (Text.trimmed text), tick := studio.graph.clock + 1 }
    studio.boosted before seen (.ok (.ok text))
      = (.ok after, { studio with
          graph := { studio.graph with
            clock := studio.graph.clock + 1
            nodes := studio.graph.nodes.map fun other => if other.id = before.id then after else other } }) := by
  intro after
  have hlive : studio.graph.has before.id = true := Graph.has_iff_mem_ids.2 (Graph.mem_ids_of_get? hnode)
  obtain ⟨graph, found, hedit, hfound, hboosted⟩ := boosted_of_live hlive seen text
  obtain ⟨_, rfl⟩ := Graph.edit_eq_ok_iff.1 hedit
  let change : Node → Node := (·.applyAll [.enhancedPrompt (some (Text.trimmed text))])
  have hchanged : _ = some after := Graph.get?_alter_self change (fun n => n.applyAll_id _) hnode
  rw [hboosted, Graph.alter_eq_of_get? hnodup hnode, Option.some.inj (hfound.symm.trans hchanged)]
  rfl

theorem execution_boosted (before : Node) (seen : List Graph)
    (reply : Except Rejection (Except Failure String)) (id : NodeId) :
    ((studio.boosted before seen reply).2.graph.get? id).map Node.execution
      = (studio.graph.get? id).map Node.execution := by
  rcases boosted_cases before seen reply with hsame | ⟨_, _, hedit, heq⟩
  · rw [hsame]
  · rw [heq]
    exact Graph.execution_of_edit hedit id

end Studio

end PromptCanvas
