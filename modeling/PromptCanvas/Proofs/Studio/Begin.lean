import PromptCanvas.Proofs.Script.Prompt
import PromptCanvas.Proofs.Studio.Run

set_option autoImplicit false

/-! # How a run begins

Beginning a run of a live node that is not running comes to carrying out the plan for the node as the run
finds it: with the parameters of the run written to it, running, and under a fresh name. -/

namespace PromptCanvas

namespace Graph

variable {g : Graph} {id : NodeId} {node : Node}

/-- A node is readied for a run by writing the parameters of the run to it. -/
theorem Sound.exists_readied (h : g.Sound) (hnode : g.get? id = some node)
    (custom aspectRatio : Option String) :
    ∃ ready tick, Studio.readied g id custom aspectRatio = .ok ready ∧
      ready.get? id
        = some { node.applyAll (Studio.parameterEdits custom aspectRatio) with tick := tick } := by
  have hpruned : (g.invalidate id).2.get? id = some node := (h.get?_invalidate_self id).trans hnode
  unfold Studio.readied
  simp only
  split
  · next hempty =>
      rw [List.isEmpty_iff.1 hempty]
      exact ⟨_, node.tick, rfl, hpruned⟩
  · exact ⟨_, _, edit_eq_ok_iff.2 ⟨mem_ids_of_get? hpruned, rfl⟩,
      get?_alter_self (·.applyAll _) (fun other => other.applyAll_id _) hpruned⟩

end Graph

namespace Studio

variable {studio : Studio} {id : NodeId} {node : Node}

/-- A node as its run finds it. -/
def running (node : Node) (custom aspectRatio : Option String) (name : String) (tick : Nat) : Node :=
  { Node.begun name (node.applyAll (parameterEdits custom aspectRatio)) with tick := tick }

/-- A run begins by carrying out the plan for the node as it is found when it has been set running. -/
theorem begin_of_readied {custom aspectRatio : Option String} {ready begun : Graph} {found : Node}
    (hnode : studio.graph.get? id = some node) (hstatus : node.status ≠ .running)
    (hready : readied studio.graph id custom aspectRatio = .ok ready) (hbegin : ready.begin id = .ok begun)
    (hfound : begun.get? id = some found) :
    studio.begin id custom aspectRatio
      = { studio with
          graph := begun
          registry := (plan studio.registry found custom).2
        }.carryOut id (found.generation.getD "") (plan studio.registry found custom).1 := by
  simp only [Studio.begin, hnode, if_neg hstatus, hready, hbegin, bind, Except.bind, hfound]

/-- A graph can be readied for a run of a live node that is not running, and the run begun. -/
theorem exists_readied_begun (hsound : studio.graph.Sound) (hnode : studio.graph.get? id = some node)
    (hstatus : node.status ≠ .running) (custom aspectRatio : Option String) :
    ∃ ready begun name tick, readied studio.graph id custom aspectRatio = .ok ready ∧
      ready.begin id = .ok begun ∧ begun.get? id = some (running node custom aspectRatio name tick) := by
  obtain ⟨ready, tick, hready, hfound⟩ := hsound.exists_readied hnode custom aspectRatio
  have hbegin : ready.begin id = .ok ((ready.withDraws ready.draws.next.2).alter id
      (Node.begun ready.draws.next.1)) :=
    Graph.begin_eq_ok_iff.2 ⟨_, hfound, by simpa using hstatus, rfl⟩
  have hdrawn : (ready.withDraws ready.draws.next.2).get? id = _ := hfound
  have hbegun := Graph.get?_alter_self (Node.begun ready.draws.next.1) (fun _ => rfl) hdrawn
  exact ⟨ready, _, ready.draws.next.1, ready.clock + 1, hready, hbegin, hbegun⟩

theorem begin_eq (hsound : studio.graph.Sound) (hnode : studio.graph.get? id = some node)
    (hstatus : node.status ≠ .running) (custom aspectRatio : Option String) :
    ∃ begun name tick, studio.graph.Begins id begun ∧
      begun.get? id = some (running node custom aspectRatio name tick) ∧
      studio.begin id custom aspectRatio
        = { studio with
            graph := begun
            registry := (plan studio.registry (running node custom aspectRatio name tick) custom).2
          }.carryOut id name
            (plan studio.registry (running node custom aspectRatio name tick) custom).1 := by
  obtain ⟨ready, begun, name, tick, hready, hbegin, hfound⟩ :=
    exists_readied_begun hsound hnode hstatus custom aspectRatio
  exact ⟨begun, name, tick, begins_of_readied hsound hready hbegin, hfound,
    begin_of_readied hnode hstatus hready hbegin hfound⟩

/-- A run that is refused ends at once, and its node has failed with the message. -/
theorem carryOut_refuse (hnode : studio.graph.get? id = some node) (hrunning : node.status = .running)
    (generation message : String) :
    ∃ after failed, studio.carryOut id generation (.refuse message) = .ok (none, after) ∧
      after.graph.get? id = some failed ∧ failed.status = .failed ∧
      failed.failure = some ⟨.emptyPrompt, message⟩ := by
  let failing : Node → Node := Node.moved .failed (some ⟨.emptyPrompt, message⟩)
  have hset : studio.graph.setStatus id .failed (some ⟨.emptyPrompt, message⟩)
      = .ok (studio.graph.alter id failing) :=
    Graph.setStatus_eq_ok_iff.2 ⟨node, hnode, by rw [hrunning]; decide, rfl⟩
  have hfailed := Graph.get?_alter_self failing (fun _ => rfl) hnode
  refine ⟨{ studio with graph := studio.graph.alter id failing }, _, ?_, hfailed, rfl, rfl⟩
  simp only [carryOut, hset, bind, Except.bind]

theorem exists_carryOut (hnode : studio.graph.get? id = some node) (hrunning : node.status = .running)
    (generation : String) (plan : Plan) :
    ∃ issued after, studio.carryOut id generation plan = .ok (issued, after) := by
  cases plan with
  | submit request => exact ⟨_, _, rfl⟩
  | finishVideo =>
      have hinput : ∀ edit ∈ [Edit.videoComplete true], edit.field ≠ .inputRef := by decide
      obtain ⟨edited, graph, hedit, hset, _⟩ := Graph.exists_ends_ready hnode hrunning hinput
      exact ⟨none, { studio with graph := graph }, by simp only [carryOut, hedit, hset, bind, Except.bind]⟩
  | refuse message =>
      obtain ⟨after, _, hrefused, _⟩ := carryOut_refuse hnode hrunning generation message
      exact ⟨none, after, hrefused⟩

theorem exists_begin (hsound : studio.graph.Sound) (hnode : studio.graph.get? id = some node)
    (hstatus : node.status ≠ .running) (custom aspectRatio : Option String) :
    ∃ issued after, studio.begin id custom aspectRatio = .ok (issued, after) := by
  obtain ⟨begun, name, tick, _, hbegun, heq⟩ := begin_eq hsound hnode hstatus custom aspectRatio
  rw [heq]
  exact exists_carryOut hbegun rfl name _

/-- A node with a script is run with the prompt of its script, unless that is blank. -/
theorem plan_of_script (registry : Registry) (hkind : node.kind = .sourceImagescript)
    (custom : Option String) :
    plan registry node custom
      = if Text.blank (node.script.getD "") then (.refuse blankPrompt, registry)
        else (.submit (.image (Script.compile (node.script.getD "")) node.aspectRatio), registry) := by
  have hblank := Script.blank_compile_iff (node.script.getD "")
  simp only [plan, hkind, buildPrompt, if_true, hblank]

/-- The parameters of a run leave alone what custom texts and aspect ratios leave alone. -/
theorem applyAll_parameterEdits {β : Type} (view : Node → β)
    (hcustom : ∀ n text, view (n.apply (.customText text)) = view n)
    (hratio : ∀ n ratio, view (n.apply (.aspectRatio ratio)) = view n) (node : Node)
    (custom aspectRatio : Option String) :
    view (node.applyAll (parameterEdits custom aspectRatio)) = view node := by
  refine node.applyAll_congr view _ fun edit hedit n => ?_
  have hfield := field_of_mem_parameterEdits edit hedit
  cases edit with
  | customText text => exact hcustom n text
  | aspectRatio ratio => exact hratio n ratio
  | _ => simp [Edit.field] at hfield

theorem running_script (node : Node) (custom aspectRatio : Option String) (name : String) (tick : Nat) :
    (running node custom aspectRatio name tick).script = node.script :=
  applyAll_parameterEdits Node.script (fun _ _ => rfl) (fun _ _ => rfl) node custom aspectRatio

theorem running_basePrompt (node : Node) (custom aspectRatio : Option String) (name : String) (tick : Nat) :
    (running node custom aspectRatio name tick).basePrompt = node.basePrompt :=
  applyAll_parameterEdits Node.basePrompt (fun _ _ => rfl) (fun _ _ => rfl) node custom aspectRatio

/-- The run of a node with a script fails for want of a prompt, and makes no request, exactly when the node
    has no script or a blank one. -/
theorem begin_script_fails_iff (hsound : studio.graph.Sound) (hnode : studio.graph.get? id = some node)
    (hkind : node.kind = .sourceImagescript) (hstatus : node.status ≠ .running)
    (custom aspectRatio : Option String) :
    (∃ after failed, studio.begin id custom aspectRatio = .ok (none, after) ∧
        after.graph.get? id = some failed ∧ failed.status = .failed ∧
        failed.failure.map Failure.kind = some .emptyPrompt) ↔
      node.script = none ∨ ∃ script, node.script = some script ∧ Text.blank script = true := by
  obtain ⟨begun, name, tick, _, hbegun, heq⟩ := begin_eq hsound hnode hstatus custom aspectRatio
  have hkind' : (running node custom aspectRatio name tick).kind = .sourceImagescript :=
    (node.applyAll_kind _).trans hkind
  have hscript : (node.script = none ∨ ∃ script, node.script = some script ∧ Text.blank script = true) ↔
      Text.blank (node.script.getD "") = true := by
    cases node.script with
    | none => exact iff_of_true (Or.inl rfl) rfl
    | some script => simp
  rw [heq, plan_of_script _ hkind', running_script, hscript]
  by_cases hblank : Text.blank (node.script.getD "") = true
  · rw [if_pos hblank]
    refine iff_of_true ?_ hblank
    obtain ⟨after, failed, hrefused, hfailed, hended, hfailure⟩ :=
      @carryOut_refuse { studio with graph := begun } id _ hbegun rfl name blankPrompt
    exact ⟨after, failed, hrefused, hfailed, hended, by rw [hfailure]; rfl⟩
  · rw [if_neg hblank]
    refine iff_of_false ?_ hblank
    rintro ⟨after, failed, hsubmitted, _⟩
    simp [carryOut] at hsubmitted

end Studio

end PromptCanvas
