import PromptCanvas.Proofs.Graph.Commute
import PromptCanvas.Proofs.Studio.Call
import PromptCanvas.Proofs.Studio.Recipe

set_option autoImplicit false

/-! # The parameters of a run

A run writes its parameters to its node before its plan is made, and the plan reads them from there. So it does
not matter whether a run brings them or an update has written them before (`begin_updated`), unless the node
holds an enhanced prompt, which comes after the text of a run and before the text of the node.

A run that fails writes nothing else to its node, but for the record of its execution, on which no plan
depends. So a run that is tried again after a failure makes the same call (`exists_begin_again`). -/

namespace PromptCanvas

/-! ## Nodes and graphs -/

namespace Node

theorem withParameters_withParameters (node : Node) (custom aspectRatio : Option String) :
    (node.withParameters custom aspectRatio).withParameters custom aspectRatio
      = node.withParameters custom aspectRatio := by
  unfold withParameters
  cases custom <;> cases aspectRatio.filter (· ≠ "") <;> rfl

end Node

namespace Graph

variable {g g' : Graph} {id : NodeId} {node : Node} {change : Node → Node} {doomed : List NodeId}

theorem Sound.alter_remove_comm (h : g.Sound) (hchange : Unlinking change) (hclosed : g.Closed doomed) :
    (g.alter id change).remove doomed = (g.remove doomed).alter id change := by
  have hstamped : Unlinking fun node => { change node with tick := g.clock + 1 } := hchange
  -- to alter a node is to touch it and to advance the clock, on which no removal depends
  exact congrArg (fun graph : Graph => { graph with clock := g.clock + 1 })
    (h.touch_remove_comm hstamped hclosed)

/-- The same is removed from below a node whether it is changed before or afterwards. -/
theorem Sound.invalidate_alter (h : g.Sound) (hchange : Unlinking change) :
    ((g.alter id change).invalidate id).2 = (g.invalidate id).2.alter id change :=
  h.alter_remove_comm hchange (h.closed_descendants id)

/-- The failure of a run changes no more of its node than the status, the failure and the stamp. -/
theorem Ends.eq_of_failed {failed : Node} (h : g.Ends id g') (hnode : g.get? id = some node)
    (hfailed : g'.get? id = some failed) (hstatus : failed.status = .failed) :
    ∃ failure tick, failed = { node with status := .failed, failure := failure, tick := tick } := by
  cases h with
  | failed failure hset =>
      obtain ⟨_, _, _, rfl⟩ := setStatus_eq_ok_iff.1 hset
      have hmoved := get?_alter_self (Node.moved .failed (some failure)) (fun _ => rfl) hnode
      exact ⟨some failure, g.clock + 1, Option.some.inj (hfailed.symm.trans hmoved)⟩
  | ready _ _ hset =>
      obtain ⟨_, later, _, _, hlater, hready, _⟩ := get?_of_setStatus hset
      obtain rfl : failed = later := Option.some.inj (hfailed.symm.trans hlater)
      rw [hready] at hstatus
      exact Status.noConfusion hstatus

end Graph

namespace Studio

variable {studio after : Studio} {id : NodeId} {node : Node} {custom aspectRatio : Option String}
variable {issued : Option Ticket}

/-! ## Plans -/

theorem plan_fst_congr {registry registry' : Registry} (h : registry'.table = registry.table) (node : Node)
    (custom : Option String) : (plan registry' node custom).1 = (plan registry node custom).1 := by
  have hresolve : ∀ kind base text,
      (registry'.resolve kind base text).1 = (registry.resolve kind base text).1 := by
    intro kind base text
    unfold Registry.resolve
    rw [h]
    cases registry.table.get? kind <;> rfl
  have hprompt : (buildPrompt registry' node custom).1 = (buildPrompt registry node custom).1 := by
    unfold buildPrompt
    split
    · rfl
    · exact hresolve _ _ _
  unfold plan
  split
  · rfl
  · simp only
    split <;> rfl
  · split <;> rfl
  · simp only [hprompt]
    split <;> rfl

/-- A text that the node holds need not be given, unless an enhanced prompt comes before it. -/
theorem customFor_held {text : String} (htext : node.customText = some text)
    (hplain : ¬ (node.kind = .promptMagic ∧ node.enhancedPrompt.getD "" ≠ "")) :
    customFor node (some text) = customFor node none := by
  unfold customFor
  rw [htext]
  split
  · next hkind =>
      have hempty : node.enhancedPrompt.getD "" = "" := not_not.1 fun hne => hplain ⟨hkind, hne⟩
      cases henhanced : node.enhancedPrompt with
      | none => by_cases ht : text = "" <;> simp [firstGiven, ht]
      | some enhanced =>
          rw [henhanced, Option.getD_some] at hempty
          by_cases ht : text = "" <;> simp [firstGiven, ht, hempty]
  · by_cases ht : text = "" <;> simp [firstGiven, ht]

theorem plan_held (registry : Registry) {text : String} (htext : node.customText = some text)
    (hplain : ¬ (node.kind = .promptMagic ∧ node.enhancedPrompt.getD "" ≠ "")) :
    plan registry node (some text) = plan registry node none := by
  unfold plan buildPrompt
  rw [customFor_held htext hplain]

/-- The plan of a run is the one for its node with the parameters of the run. -/
theorem plan_running (registry : Registry) (node : Node) (custom aspectRatio : Option String) (name : String)
    (tick : Nat) :
    plan registry (running node custom aspectRatio name tick) custom
      = plan registry (node.withParameters custom aspectRatio) custom := by
  rw [running, node.applyAll_parameterEdits_eq]
  rfl

/-! ## Parameters that an update has written -/

/-- The updates that write the parameters of a run. -/
def parameterUpdates (custom aspectRatio : String) : Json.Fields :=
  [("custom_text", .str custom), ("aspect_ratio", .str aspectRatio)]

theorem update_parameters {g : Graph} (hnode : g.get? id = some node) (custom : String) {aspectRatio : String}
    (hratio : aspectRatio ≠ "") :
    g.update id (parameterUpdates custom aspectRatio)
      = .ok (g.alter id (·.applyAll (parameterEdits (some custom) (some aspectRatio)))) := by
  have hedits : parameterEdits (some custom) (some aspectRatio)
      = [.customText (some custom), .aspectRatio aspectRatio] := by
    simp [parameterEdits, hratio]
  rw [hedits]
  exact Graph.update_eq_ok_iff.2 ⟨_, Graph.mem_ids_of_get? hnode, rfl, rfl, rfl⟩

/-- The graph that an update of the parameters leaves is readied for a run without parameters as the graph
    before is for a run with them. -/
theorem readied_updated {g updated : Graph} (hsound : g.Sound) (hnode : g.get? id = some node)
    {custom aspectRatio : String} (hratio : aspectRatio ≠ "")
    (hupdate : g.update id (parameterUpdates custom aspectRatio) = .ok updated) :
    readied updated id none none = readied g id (some custom) (some aspectRatio) := by
  let edits := parameterEdits (some custom) (some aspectRatio)
  rw [update_parameters hnode custom hratio, Except.ok.injEq] at hupdate
  subst hupdate
  have hpruned : (g.invalidate id).2.get? id = some node := (hsound.get?_invalidate_self id).trans hnode
  have hgiven : readied g id (some custom) (some aspectRatio)
      = .ok ((g.invalidate id).2.alter id (·.applyAll edits)) :=
    Graph.edit_eq_ok_iff.2 ⟨Graph.mem_ids_of_get? hpruned, rfl⟩
  rw [hgiven]
  exact congrArg Except.ok (hsound.invalidate_alter fun n => ⟨n.applyAll_id edits, n.applyAll_parent edits⟩)

/-- A run begins in the same way whether it brings its parameters or finds them written by an update. -/
theorem begin_updated (hsound : studio.graph.Sound) (hnode : studio.graph.get? id = some node)
    (hstatus : node.status ≠ .running)
    (hplain : ¬ (node.kind = .promptMagic ∧ node.enhancedPrompt.getD "" ≠ "")) {custom aspectRatio : String}
    (hratio : aspectRatio ≠ "") {updated : Graph}
    (hupdate : studio.graph.update id (parameterUpdates custom aspectRatio) = .ok updated) :
    { studio with graph := updated }.begin id none none
      = studio.begin id (some custom) (some aspectRatio) := by
  obtain ⟨ready, begun, name, tick, hready, hbegin, hfound⟩ :=
    exists_readied_begun hsound hnode hstatus (some custom) (some aspectRatio)
  have hready' : readied updated id none none = .ok ready :=
    (readied_updated hsound hnode hratio hupdate).trans hready
  -- the update leaves the node as it was but for the parameters
  obtain ⟨later, hlater, hstatus'⟩ : ∃ later, updated.get? id = some later ∧ later.status ≠ .running := by
    rw [update_parameters hnode custom hratio, Except.ok.injEq] at hupdate
    rw [← hupdate]
    exact ⟨_, Graph.get?_alter_self (·.applyAll _) (fun n => n.applyAll_id _) hnode,
      fun h => hstatus ((node.applyAll_status _).symm.trans h)⟩
  have hholds := node.applyAll_parameterEdits_eq (some custom) (some aspectRatio)
  have htext : (running node (some custom) (some aspectRatio) name tick).customText = some custom := by
    rw [running, hholds]
    rfl
  have hplain' : ¬ ((running node (some custom) (some aspectRatio) name tick).kind = .promptMagic ∧
      (running node (some custom) (some aspectRatio) name tick).enhancedPrompt.getD "" ≠ "") := by
    rw [running, hholds]
    exact hplain
  have hwritten := @begin_of_readied { studio with graph := updated } id later none none ready begun _ hlater
    hstatus' hready' hbegin hfound
  rw [begin_of_readied hnode hstatus hready hbegin hfound, hwritten, plan_held studio.registry htext hplain']

/-! ## Runs that are over -/

/-- The studio when a run that has begun is over: with the reply to the request of the run, if it has made
    one. -/
def concluded (studio : Studio) (service : Service) (issued : Option Ticket) : Studio :=
  match issued with
  | some ticket => (studio.resume service [] (.run ticket)).2
  | none => studio

section

variable (hsound : studio.graph.Sound) (hnode : studio.graph.get? id = some node)
variable (hstatus : node.status ≠ .running)
variable (h : studio.begin id custom aspectRatio = .ok (issued, after)) (service : Service)

include hsound h in
theorem sound_concluded : (after.concluded service issued).graph.Sound := by
  obtain ⟨_, path, _⟩ := (launches_of_begin hsound h).1.path hsound
  have hafter : after.graph.Sound := path.sound hsound
  cases issued with
  | none => exact hafter
  | some ticket =>
      obtain ⟨_, ending, _⟩ := resume_path hafter service [] (.run ticket)
      exact ending.sound hafter

include hsound hnode hstatus h

/-- A run that leaves its node failed has begun and ended, with the table of recipes as it was. -/
theorem ends_concluded {failed : Node} (hfound : (after.concluded service issued).graph.get? id = some failed)
    (hfailed : failed.status = .failed) :
    ∃ (begun : Graph) (name : String) (tick : Nat),
      begun.get? id = some (running node custom aspectRatio name tick) ∧
      begun.Ends id (after.concluded service issued).graph ∧
      (after.concluded service issued).registry.table = studio.registry.table := by
  obtain ⟨begun, name, tick, _, hbegun, heq⟩ := begin_eq hsound hnode hstatus custom aspectRatio
  refine ⟨begun, name, tick, hbegun, ?_⟩
  obtain ⟨hafter, ⟨request, rfl, hgraph⟩ | ⟨rfl, hends⟩⟩ := carryOut_cases (heq.symm.trans h)
  case inl =>
    have hcurrent : after.current? ⟨id, name, request⟩ = some (running node custom aspectRatio name tick) :=
      current?_eq_some_iff.2 ⟨hgraph ▸ hbegun, rfl, rfl⟩
    rcases after.resume_run_cases service [] ⟨id, name, request⟩ with ⟨_, _, hresume⟩ | ⟨_, _, hstale, _⟩ |
      ⟨_, _, graph, _, _, hends, hresume⟩
    · -- the node would still be running
      have hover : after.concluded service (some ⟨id, name, request⟩) = after := congrArg Prod.snd hresume
      rw [hover, hgraph, hbegun, Option.some.injEq] at hfound
      rw [← hfound] at hfailed
      exact Status.noConfusion hfailed
    · simp [hcurrent] at hstale
    · have hover : after.concluded service (some ⟨id, name, request⟩) = { after with graph := graph } :=
        congrArg Prod.snd hresume
      rw [hgraph] at hends
      rw [hover, hafter, plan_snd]
      exact ⟨hends, rfl⟩
  case inr =>
    refine ⟨hends, ?_⟩
    show after.registry.table = _
    rw [hafter, plan_snd]
    rfl

/-- A run that fails leaves its node with the parameters of the run, and else with nothing new but the record
    of its execution. -/
theorem eq_of_failed {failed : Node} (hfound : (after.concluded service issued).graph.get? id = some failed)
    (hfailed : failed.status = .failed) :
    ∃ failure generation tick, failed = { node.withParameters custom aspectRatio with
      status := .failed, failure := failure, generation := generation, tick := tick } := by
  obtain ⟨begun, name, _, hbegun, hends, _⟩ := ends_concluded hsound hnode hstatus h service hfound hfailed
  obtain ⟨failure, tick, rfl⟩ := hends.eq_of_failed hbegun hfound hfailed
  rw [← node.applyAll_parameterEdits_eq]
  exact ⟨failure, some name, tick, rfl⟩

omit service in
theorem call_of_begin :
    issued.map (fun ticket => ticket.request.call)
      = (plan studio.registry (node.withParameters custom aspectRatio) custom).1.call? := by
  obtain ⟨begun, name, tick, _, hbegun, heq⟩ := begin_eq hsound hnode hstatus custom aspectRatio
  obtain ⟨issued', later, _, hcarried, _, hcall, _⟩ :=
    @exists_carried { studio with graph := begun, registry := _ } id _ hbegun rfl name
      (plan studio.registry (running node custom aspectRatio name tick) custom).1
  rw [← plan_running studio.registry node custom aspectRatio name tick, ← hcall]
  rw [heq, hcarried, Except.ok.injEq, Prod.mk.injEq] at h
  rw [h.1]

/-- A run that has failed begins again with the same parameters, and makes the same call. -/
theorem exists_begin_again {failed : Node}
    (hfound : (after.concluded service issued).graph.get? id = some failed) (hfailed : failed.status = .failed) :
    ∃ issued' after', (after.concluded service issued).begin id custom aspectRatio = .ok (issued', after') ∧
      issued'.map (fun ticket => ticket.request.call) = issued.map (fun ticket => ticket.request.call) := by
  have hstatus' : failed.status ≠ .running := by rw [hfailed]; decide
  have hsound' := sound_concluded hsound h service
  obtain ⟨issued', after', hbegin⟩ := exists_begin hsound' hfound hstatus' custom aspectRatio
  refine ⟨issued', after', hbegin, ?_⟩
  obtain ⟨_, _, _, _, _, htable⟩ := ends_concluded hsound hnode hstatus h service hfound hfailed
  obtain ⟨failure, generation, tick, rfl⟩ := eq_of_failed hsound hnode hstatus h service hfound hfailed
  rw [call_of_begin hsound' hfound hstatus' hbegin, call_of_begin hsound hnode hstatus h, plan_fst_congr htable]
  -- the record of an execution has no part in a plan
  have hsame : ∀ registry : Registry,
      plan registry ({ node.withParameters custom aspectRatio with
        status := .failed, failure := failure, generation := generation, tick := tick
        }.withParameters custom aspectRatio) custom
        = plan registry ((node.withParameters custom aspectRatio).withParameters custom aspectRatio) custom :=
    fun _ => rfl
  rw [hsame, node.withParameters_withParameters]

end

end Studio

end PromptCanvas
