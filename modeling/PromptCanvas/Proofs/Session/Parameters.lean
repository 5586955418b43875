import PromptCanvas.Proofs.Session.Call
import PromptCanvas.Proofs.Studio.Parameters

set_option autoImplicit false

/-! # The parameters of runs in a session

In every reached session the parameters of a run can as well be written by an update before the run, and a run
that has failed can be tried again: it makes the call that it has made before. -/

namespace PromptCanvas.Session

variable {session : Session}

/-! ## A run and its reply -/

section

variable {after : Studio} {id : NodeId} {custom aspectRatio : Option String} {issued : Option Ticket}
variable {move : Move}
variable (h : session.studio.begin id custom aspectRatio = .ok (issued, after))
variable (hmove : move.operation? = some (.run id custom aspectRatio))

include h hmove

theorem begins_of_run : session.begins move = some id :=
  begins_eq_some_iff.2 ⟨_, issued, hmove, Studio.opens_eq_some_iff.2 ⟨rfl, after, h⟩⟩

variable (hsound : session.graph.Sound)

include hsound

theorem calls_of_run : session.calls move = issued.map fun ticket => ticket.request.call := by
  unfold calls
  rw [step_of_run hsound h hmove]
  cases issued <;> simp [Errand.call]

/-- When the run has had its reply, nothing more is out than before. -/
theorem answered_of_run (service : Service) :
    session.answered move service
      = { studio := after.concluded service issued, awaiting := session.awaiting } := by
  unfold answered
  rw [step_of_run hsound h hmove]
  cases issued with
  | none =>
      rw [Option.map_none, Option.toList_none, List.append_nil]
      exact step_reply_of_none service [] (List.getElem?_eq_none le_rfl)
  | some ticket =>
      have hplace : (session.awaiting ++ [Errand.run ticket])[session.awaiting.length]? = some (.run ticket) :=
        List.getElem?_concat_length
      have hrest : (session.awaiting ++ [Errand.run ticket]).eraseIdx session.awaiting.length
          = session.awaiting := by
        rw [List.eraseIdx_append_of_length_le le_rfl, Nat.sub_self]
        exact List.append_nil _
      simp only [Option.map_some, Option.toList_some, Session.step, hplace, hrest, Studio.concluded]

end

/-! ## Parameters as updates -/

/-- In every reached session a live node that is not running takes the parameters of a run as well from an
    update before. The update is accepted and makes no call; the run without parameters then makes the call, with
    the arguments, that the run with them would have made, and leads to the same session, now and with every
    reply. Only an enhanced prompt comes between the text of a run and the text of its node. -/
theorem run_after_update (settings : Settings) (registry : Registry) (strict : Bool) (draws : Draws)
    (moves : List Move) {id : NodeId} {custom aspectRatio : String} (hratio : aspectRatio ≠ "")
    {update run plain : Move}
    (hupdate : update.operation? = some (.update id (Studio.parameterUpdates custom aspectRatio)))
    (hrun : run.operation? = some (.run id (some custom) (some aspectRatio)))
    (hplain : plain.operation? = some (.run id none none)) :
    let reached := (opening settings registry strict draws).after moves
    let updated := reached.step update
    ∀ node, reached.graph.get? id = some node → node.status ≠ .running →
      ¬ (node.kind = .promptMagic ∧ node.enhancedPrompt.getD "" ≠ "") →
        reached.graph.update id (Studio.parameterUpdates custom aspectRatio) = .ok updated.graph ∧
          reached.calls update = none ∧
          updated.calls plain = reached.calls run ∧
          updated.step plain = reached.step run ∧
          ∀ service, updated.answered plain service = reached.answered run service := by
  intro reached updated node hnode hstatus hmagic
  have hsound : reached.graph.Sound := sound_after (sound_opening settings registry strict draws) moves
  have haccepted := Studio.update_parameters hnode custom hratio
  generalize reached.graph.alter id _ = written at haccepted
  have hupdated : updated
      = { studio := { reached.studio with graph := written }, awaiting := reached.awaiting } := by
    show reached.step update = _
    rw [step_of_operation hsound hupdate, Studio.perform, haccepted]
    simp [Session.enter, Studio.accept]
  have hsound' : updated.graph.Sound := sound_step hsound update
  obtain ⟨issued, after, hbegin⟩ :=
    Studio.exists_begin hsound hnode hstatus (some custom) (some aspectRatio)
  have hbegin' : updated.studio.begin id none none = .ok (issued, after) := by
    rw [hupdated, ← hbegin]
    exact Studio.begin_updated hsound hnode hstatus hmagic hratio haccepted
  have hawaiting : updated.awaiting = reached.awaiting := by rw [hupdated]
  refine ⟨?accepted, ?silent, ?calls, ?step, fun service => ?answered⟩
  case accepted => rw [hupdated, haccepted]
  case silent =>
    show ((updated.awaiting)[reached.awaiting.length]?).map Errand.call = none
    rw [hawaiting, List.getElem?_eq_none le_rfl, Option.map_none]
  case calls => rw [calls_of_run hbegin' hplain hsound', calls_of_run hbegin hrun hsound]
  case step => rw [step_of_run hsound' hbegin' hplain, step_of_run hsound hbegin hrun, hawaiting]
  case answered =>
    rw [answered_of_run hbegin' hplain hsound', answered_of_run hbegin hrun hsound, hawaiting]

/-- An empty text, written by an update or brought by the run: the prompt of the source is taken. -/
theorem run_after_update_empty_text :
    let root : NodeId := "node-000000000001"
    let moves : List Move := [.perform (.add (.str "source-generate") none [("prompt", .str "a crow")])]
    let reached := (opening {} {} false { given := ["000000000001", "first"] }).after moves
    let update : Move := .perform (.update root (Studio.parameterUpdates "" "16:9"))
    let updated := reached.step update
    let run : Move := .perform (.run root (some "") (some "16:9"))
    let plain : Move := .perform (.run root none none)
    (∃ node, reached.graph.get? root = some node ∧ node.status ≠ .running ∧ node.kind ≠ .promptMagic) ∧
      updated.calls plain = some (.image "a crow" "16:9") ∧ updated.step plain = reached.step run := by
  intro root moves reached update updated run plain
  have hview : (reached.graph.get? root).map (fun node => (node.status, node.kind))
      = some (.idle, .sourceGenerate) := by decide +kernel
  have hcall : reached.calls run = some (.image "a crow" "16:9") := by decide +kernel
  obtain ⟨node, hnode, hnow⟩ := Option.map_eq_some_iff.1 hview
  obtain ⟨hidle, hsource⟩ := Prod.mk.inj hnow
  have hstatus : node.status ≠ .running := by rw [hidle]; decide
  have hkind : node.kind ≠ .promptMagic := by rw [hsource]; decide
  have hupdate : update.operation? = some (.update root (Studio.parameterUpdates "" "16:9")) := rfl
  have hrun : run.operation? = some (.run root (some "") (some "16:9")) := rfl
  have hplain : plain.operation? = some (.run root none none) := rfl
  obtain ⟨_, _, hcalls, hstep, _⟩ := run_after_update {} {} false _ moves (by decide) hupdate hrun hplain node
    hnode hstatus fun hmagic => hkind hmagic.1
  exact ⟨⟨node, hnode, hstatus, hkind⟩, hcalls.trans hcall, hstep⟩

/-! ## Runs that are tried again -/

/-- In every reached session, when a run of a live node that was not running has failed, then the same run can
    be tried again at once, and makes the same call with the same arguments, or again none. In between, nothing
    else is out than before the first run, and the node differs from what it was at most in its custom text and
    its aspect ratio, which are the parameters of the run, and in the record of its execution. -/
theorem retry_repeats_call (settings : Settings) (registry : Registry) (strict : Bool) (draws : Draws)
    (moves : List Move) {id : NodeId} {custom aspectRatio : Option String} {first again : Move}
    (hfirst : first.operation? = some (.run id custom aspectRatio))
    (hagain : again.operation? = some (.run id custom aspectRatio)) (service : Service) :
    let reached := (opening settings registry strict draws).after moves
    let between := reached.answered first service
    ∀ node failed, reached.graph.get? id = some node → node.status ≠ .running →
      between.graph.get? id = some failed → failed.status = .failed →
        between.begins again = some id ∧
          between.calls again = reached.calls first ∧
          between.awaiting = reached.awaiting ∧
          ∃ failure generation tick, failed = { node.withParameters custom aspectRatio with
            status := .failed, failure := failure, generation := generation, tick := tick } := by
  intro reached between node failed hnode hstatus hfound hfailed
  have hsound : reached.graph.Sound := sound_after (sound_opening settings registry strict draws) moves
  obtain ⟨issued, after, hbegin⟩ := Studio.exists_begin hsound hnode hstatus custom aspectRatio
  have hbetween : between = { studio := after.concluded service issued, awaiting := reached.awaiting } :=
    answered_of_run hbegin hfirst hsound service
  have hsound' : between.graph.Sound := sound_step (sound_step hsound first) _
  have hfound' : (after.concluded service issued).graph.get? id = some failed := by
    rw [hbetween] at hfound
    exact hfound
  obtain ⟨issued', after', hagain', hcall⟩ :=
    Studio.exists_begin_again hsound hnode hstatus hbegin service hfound' hfailed
  have hbegin' : between.studio.begin id custom aspectRatio = .ok (issued', after') := by rw [hbetween, hagain']
  refine ⟨begins_of_run hbegin' hagain, ?calls, by rw [hbetween], ?failed⟩
  case calls => rw [calls_of_run hbegin' hagain hsound', calls_of_run hbegin hfirst hsound, hcall]
  case failed => exact Studio.eq_of_failed hsound hnode hstatus hbegin service hfound' hfailed

/-- A run that fails for want of quota: the enhanced prompt is sent again. -/
theorem retry_repeats_call_of_quota :
    let id : NodeId := "node-000000000001"
    let service : Service :=
      ⟨fun _ _ => .error (.known ⟨.quotaExceeded, "Out of quota."⟩), fun _ _ => .ok "", fun _ => .ok "",
        fun _ _ _ => .ok [], Json.stackRoom⟩
    let moves : List Move :=
      [.perform (.add (.str "op-prompt-magic") none
        [("base_prompt", .str "a crow"), ("enhanced_prompt", .str "a crow at dusk")])]
    let draws : Draws := { given := ["000000000001", "first", "second"] }
    let reached := (opening {} {} false draws).after moves
    let run : Move := .perform (.run id none (some "16:9"))
    let between := reached.answered run service
    ∃ node failed, reached.graph.get? id = some node ∧ node.status ≠ .running ∧
      between.graph.get? id = some failed ∧ failed.status = .failed ∧ between.begins run = some id ∧
      between.calls run = some (.image "a crow at dusk" "16:9") := by
  intro id service moves draws reached run between
  have hbefore : (reached.graph.get? id).map Node.status = some .idle := by decide +kernel
  have hafter : (between.graph.get? id).map Node.status = some .failed := by decide +kernel
  have hcall : reached.calls run = some (.image "a crow at dusk" "16:9") := by decide +kernel
  obtain ⟨node, hnode, hidle⟩ := Option.map_eq_some_iff.1 hbefore
  obtain ⟨failed, hfound, hfailed⟩ := Option.map_eq_some_iff.1 hafter
  have hstatus : node.status ≠ .running := by rw [hidle]; decide
  have hrun : run.operation? = some (.run id none (some "16:9")) := rfl
  have hagain := retry_repeats_call {} {} false draws moves hrun hrun service node failed
  have hreached : (opening {} {} false draws).after moves = reached := rfl
  have hbetween : reached.answered run service = between := rfl
  rw [hreached, hbetween] at hagain
  obtain ⟨hbegins, hcalls, _⟩ := hagain hnode hstatus hfound hfailed
  exact ⟨node, failed, hnode, hstatus, hfound, hfailed, hbegins, hcalls.trans hcall⟩

end PromptCanvas.Session
