import PromptCanvas.Proofs.Session.Run
import PromptCanvas.Proofs.Studio.Call

set_option autoImplicit false

/-! # The calls of runs in a session

Whether a run is waited for or started, in every reached session its beginning leaves nothing below the node
and settles the one call that the run makes, or that it makes none. -/

namespace PromptCanvas

namespace Studio

variable {studio after : Studio} {id : NodeId} {custom aspectRatio : Option String} {issued : Option Ticket}

theorem perform_start_of_ok (h : studio.begin id custom aspectRatio = .ok (issued, after)) :
    studio.perform (.start id custom aspectRatio)
      = ({ after with pending := after.pending ++ issued.toList }, none) := by
  cases issued with
  | none => simp [Studio.perform, Studio.start, h]
  | some ticket => simp [Studio.perform, Studio.start, h]

/-- A run that is refused leaves nothing, whether it is to be waited for or not. -/
theorem perform_of_error {r : Rejection} (h : studio.begin id custom aspectRatio = .error r) :
    studio.perform (.run id custom aspectRatio) = (studio, none) ∧
      studio.perform (.start id custom aspectRatio) = (studio, none) :=
  ⟨left_run_of_error h, by simp [Studio.perform, Studio.start, h]⟩

end Studio

namespace Session

variable {session : Session}

section

variable {after : Studio} {id : NodeId} {custom aspectRatio : Option String} {issued : Option Ticket} {move : Move}
variable (hsound : session.graph.Sound) (h : session.studio.begin id custom aspectRatio = .ok (issued, after))

include h in
theorem issues_of_ok
    (hmove : move.operation? = some (.run id custom aspectRatio) ∨
      move.operation? = some (.start id custom aspectRatio)) : session.issues move = issued := by
  have hopens : session.studio.opens id custom aspectRatio = some (id, issued) :=
    Studio.opens_eq_some_iff.2 ⟨rfl, after, h⟩
  unfold Session.issues
  rcases hmove with hwaited | hstarted
  · simp [hwaited, Studio.beginning, hopens]
  · simp [hstarted, Studio.beginning, hopens]

include hsound h

theorem step_of_run (hmove : move.operation? = some (.run id custom aspectRatio)) :
    session.step move
      = { studio := after, awaiting := session.awaiting ++ (issued.map Errand.run).toList } := by
  rw [step_of_operation hsound hmove, Studio.perform, Studio.left_run_of_ok h]
  rfl

theorem step_of_start (hmove : move.operation? = some (.start id custom aspectRatio)) :
    session.step move
      = { studio := { after with pending := after.pending ++ issued.toList }
          awaiting := session.awaiting } := by
  rw [step_of_operation hsound hmove, Studio.perform_start_of_ok h]
  simp [Session.enter]

end

/-- The reply to a run depends on the service only through its answer to the call of the ticket. In every
    reached session a run, waited for or started, is refused where the node does not live or is running, and
    then the session stays as it is. Else it begins: nothing is left below the node, the run makes the call
    that `Opened` says or none, and nothing goes out or is pending but the ticket of that call. -/
theorem run_calls_once (settings : Settings) (registry : Registry) (strict : Bool) (draws : Draws)
    (moves : List Move) :
    let reached := (opening settings registry strict draws).after moves
    (∀ (studio : Studio) (ticket : Ticket) (service service' : Service) (seen : List Graph),
        service.Agrees service' ticket.request.call →
          studio.resume service seen (.run ticket) = studio.resume service' seen (.run ticket)) ∧
      ∀ (id : NodeId) (custom aspectRatio : Option String) (move : Move),
        let waited := move.operation? = some (.run id custom aspectRatio)
        let started := move.operation? = some (.start id custom aspectRatio)
        let later := reached.step move
        let issued := reached.issues move
        waited ∨ started →
          (reached.graph.get? id = none →
            reached.studio.begin id custom aspectRatio = .error (.notFound id) ∧ later = reached) ∧
          ∀ node, reached.graph.get? id = some node →
            (node.status = .running →
              reached.studio.begin id custom aspectRatio = .error (.busy id) ∧ later = reached) ∧
            (node.status ≠ .running →
              (∃ after, later.graph.get? id = some after ∧ later.graph.descendants id = [] ∧
                  reached.studio.Opened id custom aspectRatio node issued after) ∧
                (waited → later.awaiting = reached.awaiting ++ (issued.map Errand.run).toList ∧
                  later.studio.pending = reached.studio.pending) ∧
                (started → later.awaiting = reached.awaiting ∧
                  later.studio.pending = reached.studio.pending ++ issued.toList)) := by
  intro reached
  have hsound : reached.graph.Sound := sound_after (sound_opening settings registry strict draws) moves
  refine ⟨fun studio ticket _ _ seen h => studio.resume_congr seen (.run ticket) h, ?_⟩
  intro id custom aspectRatio move waited started later issued hmove
  have hrefused : ∀ r, reached.studio.begin id custom aspectRatio = .error r → later = reached := by
    intro r hr
    obtain ⟨hrun, hstart⟩ := Studio.perform_of_error hr
    rcases hmove with hwaited | hstarted
    · exact (step_of_operation hsound hwaited).trans ((congrArg reached.enter hrun).trans enter_idle)
    · exact (step_of_operation hsound hstarted).trans ((congrArg reached.enter hstart).trans enter_idle)
  refine ⟨fun hnone => ?missing, fun node hnode => ⟨fun hrunning => ?busy, fun hstatus => ?begins⟩⟩
  case missing =>
    have hbegin : reached.studio.begin id custom aspectRatio = .error (.notFound id) := by
      simp only [Studio.begin, hnone]
    exact ⟨hbegin, hrefused _ hbegin⟩
  case busy =>
    have hbegin : reached.studio.begin id custom aspectRatio = .error (.busy id) := by
      simp only [Studio.begin, hnode, if_pos hrunning]
    exact ⟨hbegin, hrefused _ hbegin⟩
  case begins =>
    obtain ⟨ticket?, begun, after, hbegin, hafter, hleaf, hopened⟩ :=
      Studio.begin_opened hsound hnode hstatus custom aspectRatio
    have hpending := (Studio.launches_of_begin hsound hbegin).2
    have hissued : issued = ticket? := issues_of_ok hbegin hmove
    have hwait : waited →
        later = { studio := begun, awaiting := reached.awaiting ++ (ticket?.map Errand.run).toList } :=
      step_of_run hsound hbegin
    have hstart : started →
        later = { studio := { begun with pending := begun.pending ++ ticket?.toList }
                  awaiting := reached.awaiting } :=
      step_of_start hsound hbegin
    have hgraph : later.graph = begun.graph := by
      rcases hmove with hwaited | hstarted
      · rw [hwait hwaited]
      · rw [hstart hstarted]
    rw [hgraph, hissued]
    refine ⟨⟨after, hafter, hleaf, hopened⟩, fun hwaited => ?_, fun hstarted => ?_⟩
    · rw [hwait hwaited]
      exact ⟨rfl, hpending⟩
    · rw [hstart hstarted]
      exact ⟨rfl, congrArg (· ++ ticket?.toList) hpending⟩

/-- The parameters of the run decide on its call, and the child of the node is gone when the run is pending. -/
theorem run_calls_once_of_source :
    let root : NodeId := "node-000000000001"
    let moves : List Move :=
      [.perform (.add (.str "source-generate") none [("prompt", .str "a crow")]),
        .perform (.add (.str "op-style") (some root) [])]
    let draws : Draws := { given := ["000000000001", "000000000002", "first"] }
    let reached := (opening {} {} false draws).after moves
    let move : Move := .perform (.start root (some "an owl") (some "16:9"))
    reached.graph.descendants root = ["node-000000000002"] ∧
      ∃ node after, reached.graph.get? root = some node ∧ node.status ≠ .running ∧
        (reached.step move).graph.get? root = some after ∧ (reached.step move).graph.descendants root = [] ∧
        after.status = .running ∧
        (reached.step move).studio.pending = [⟨root, "first", .image "an owl" "16:9"⟩] := by
  intro root moves draws reached move
  have hview : (reached.graph.get? root).map Node.status = some .idle := by decide +kernel
  have hissued : reached.issues move = some ⟨root, "first", .image "an owl" "16:9"⟩ := by decide +kernel
  have hempty : reached.studio.pending = [] := by decide +kernel
  have hchild : reached.graph.descendants root = ["node-000000000002"] := by decide +kernel
  have hstarted : move.operation? = some (.start root (some "an owl") (some "16:9")) := rfl
  obtain ⟨node, hnode, hidle⟩ := Option.map_eq_some_iff.1 hview
  have hstatus : node.status ≠ .running := by rw [hidle]; decide
  obtain ⟨⟨after, hafter, hleaf, hopened⟩, _, hpending⟩ :=
    (((run_calls_once {} {} false draws moves).2 root (some "an owl") (some "16:9") move (Or.inr hstarted)).2
      node hnode).2 hstatus
  have hlater := (hpending hstarted).2
  -- what the theorem gives speaks of the run of the moves, the facts above of `reached`
  have hreached : (opening {} {} false draws).after moves = reached := rfl
  rw [hreached] at hafter hleaf hopened hlater
  rw [hissued, hempty] at hlater
  exact ⟨hchild, node, after, hnode, hstatus, hafter, hleaf, (hopened.waits _ hissued).2.1, hlater⟩

end Session

end PromptCanvas
