import PromptCanvas.Proofs.Http.Asked
import PromptCanvas.Proofs.Studio.Tracking
import PromptCanvas.Session.Basic

set_option autoImplicit false

/-! # Moves of a session

What one move does to a session whose graph is sound, and what moves do one after the other. A move takes
the graph along a path of changes, so that every graph that is reached is sound. -/

namespace PromptCanvas.Session

variable {session : Session}

/-! ## One move -/

theorem enter_idle : session.enter (session.studio, none) = session := by
  unfold Session.enter
  rw [Option.toList_none, List.append_nil]

theorem step_request (hsound : session.graph.Sound) (request : Http.HttpRequest) :
    session.step (.request request) = session.enter (session.studio.performAsked request.asked) :=
  congrArg session.enter (Http.left_handle hsound request)

theorem graph_step_takeUp : (session.step .takeUp).graph = session.graph := by
  simp only [Session.step, Studio.takeUp?]
  cases session.studio.pending <;> rfl

theorem step_reply_of_none {place : Nat} (service : Service) (seen : List Graph)
    (h : session.awaiting[place]? = none) : session.step (.reply place service seen) = session := by
  simp only [Session.step, h]

/-- A move performs the operation behind it. Without one it takes up a run, brings a reply, or does
    nothing. -/
theorem step_cases (hsound : session.graph.Sound) (move : Move) :
    (∃ operation, move.operation? = some operation ∧
        session.step move = session.enter (session.studio.perform operation)) ∨
      (move.operation? = none ∧
        (session.step move = session ∨ move = .takeUp ∨
          ∃ place service seen errand, move = .reply place service seen ∧
            session.awaiting[place]? = some errand)) := by
  cases move with
  | perform operation => exact Or.inl ⟨operation, rfl, rfl⟩
  | request request =>
      rw [step_request hsound]
      simp only [Move.operation?]
      cases request.asked with
      | none => exact Or.inr ⟨rfl, Or.inl enter_idle⟩
      | some operation => exact Or.inl ⟨operation, rfl, rfl⟩
  | takeUp => exact Or.inr ⟨rfl, Or.inr (Or.inl rfl)⟩
  | reply place service seen =>
      cases hplace : session.awaiting[place]? with
      | none => exact Or.inr ⟨rfl, Or.inl (step_reply_of_none service seen hplace)⟩
      | some errand => exact Or.inr ⟨rfl, Or.inr (Or.inr ⟨place, service, seen, errand, rfl, hplace⟩)⟩

theorem step_of_operation (hsound : session.graph.Sound) {move : Move} {operation : Operation}
    (h : move.operation? = some operation) :
    session.step move = session.enter (session.studio.perform operation) := by
  rcases step_cases hsound move with ⟨other, hother, hstep⟩ | ⟨hnone, _⟩
  · rw [hstep, Option.some.inj (hother.symm.trans h)]
  · rw [hnone] at h
    simp at h

theorem graph_step_cases (hsound : session.graph.Sound) (move : Move) :
    (∃ operation, move.operation? = some operation ∧
        (session.step move).graph = (session.studio.perform operation).1.graph) ∨
      (move.operation? = none ∧
        ((session.step move).graph = session.graph ∨
          ∃ service seen errand,
            (session.step move).graph = (session.studio.resume service seen errand).2.graph)) := by
  rcases step_cases hsound move with ⟨operation, hoperation, hstep⟩ |
    ⟨hnone, hstep | rfl | ⟨place, service, seen, errand, rfl, hplace⟩⟩
  · exact Or.inl ⟨operation, hoperation, congrArg Session.graph hstep⟩
  · exact Or.inr ⟨hnone, Or.inl (congrArg Session.graph hstep)⟩
  · exact Or.inr ⟨hnone, Or.inl graph_step_takeUp⟩
  · refine Or.inr ⟨hnone, Or.inr ⟨service, seen, errand, ?_⟩⟩
    simp only [Session.step, hplace]

theorem isManual_of_isIndirect {move : Move} {operation : Operation} (hindirect : move.isIndirect = true)
    (h : move.operation? = some operation) : operation.isManual = false := by
  simpa [Move.isIndirect, h] using hindirect

theorem begins_eq_some_iff {move : Move} {id : NodeId} :
    session.begins move = some id ↔
      ∃ operation issued, move.operation? = some operation ∧
        session.studio.beginning operation = some (id, issued) := by
  unfold Session.begins
  cases move.operation? with
  | none => simp
  | some operation => simp

theorem issues_eq_some_iff {move : Move} {ticket : Ticket} :
    session.issues move = some ticket ↔
      ∃ operation id, move.operation? = some operation ∧
        session.studio.beginning operation = some (id, some ticket) := by
  unfold Session.issues
  cases move.operation? with
  | none => simp
  | some operation => simp [Option.bind_eq_some_iff]

/-- What a move asks of the changes it makes: nothing, unless a caller may neither move nodes by hand nor
    give artifacts. -/
def Fits (move : Move) (g : Graph) (change : Change) : Prop :=
  move.isIndirect = true → move.sparesArtifacts = true → g.Orderly change

theorem step_path (hsound : session.graph.Sound) (move : Move) :
    ∃ changes, Graph.Path (Fits move) session.graph changes (session.step move).graph ∧
      changes.filterMap Change.added? = (session.creates move).toList ∧
      changes.filterMap Change.begun? = (session.begins move).toList := by
  unfold Session.creates Session.begins
  rcases graph_step_cases hsound move with ⟨operation, hoperation, hgraph⟩ |
    ⟨hnone, hgraph | ⟨service, seen, errand, hgraph⟩⟩
  · obtain ⟨changes, path, hadded, hbegun⟩ := Studio.perform_path hsound operation
    rw [hgraph, hoperation]
    refine ⟨changes, path.mono fun _ _ hfit hindirect hspares => hfit ?_ ?_, hadded, hbegun⟩
    · exact isManual_of_isIndirect hindirect hoperation
    · simpa [Move.sparesArtifacts, hoperation] using hspares
  · rw [hgraph, hnone]
    exact ⟨[], .nil _, rfl, rfl⟩
  · obtain ⟨changes, path, hadded, hbegun⟩ := Studio.resume_path hsound service seen errand
    rw [hgraph, hnone]
    exact ⟨changes, path.mono fun _ _ hfit _ _ => hfit, hadded, hbegun⟩

theorem sound_step (hsound : session.graph.Sound) (move : Move) : (session.step move).graph.Sound := by
  obtain ⟨_, path, _⟩ := step_path hsound move
  exact path.sound hsound

/-! ## Tickets in flight -/

/-- An operation adds the ticket of the run it begins to those in flight. -/
theorem inFlight_perform (hsound : session.graph.Sound) (operation : Operation) :
    (session.enter (session.studio.perform operation)).inFlight.Perm
      (session.inFlight ++ ((session.studio.beginning operation).bind Prod.snd).toList) := by
  have hleaves := Studio.leaves_perform hsound operation
  generalize session.studio.perform operation = left at hleaves ⊢
  have herrand : left.2.toList.filterMap Errand.ticket? = (left.2.bind Errand.ticket?).toList := by
    cases left.2 with
    | none => rfl
    | some errand => cases errand <;> rfl
  unfold Studio.leaves at hleaves
  unfold Session.inFlight Session.enter
  rw [List.filterMap_append, herrand]
  -- the ticket of the operation moves from behind the errands that are out to the pending runs
  refine (List.perm_append_comm.append_left left.1.pending).trans ?_
  rw [← List.append_assoc, hleaves, List.append_assoc, List.append_assoc]
  exact List.perm_append_comm.append_left session.studio.pending

theorem inFlight_takeUp : (session.step .takeUp).inFlight.Perm session.inFlight := by
  unfold Session.inFlight
  simp only [Session.step, Studio.takeUp?]
  cases hpending : session.studio.pending with
  | nil => rw [hpending]
  | cons ticket rest =>
      simp only [Session.enter, Studio.submit, Served.left, Option.toList_some, List.filterMap_append]
      rw [← List.append_assoc]
      exact List.perm_append_singleton ticket _

theorem awaiting_of_ticket? {place : Nat} {ticket : Ticket}
    (h : (session.awaiting[place]?).bind Errand.ticket? = some ticket) :
    session.awaiting[place]? = some (.run ticket) := by
  obtain ⟨errand, herrand, hticket⟩ := Option.bind_eq_some_iff.1 h
  rw [herrand, Errand.eq_run_of_ticket? hticket]

/-- A reply takes the ticket of its errand out of flight. -/
theorem inFlight_reply {place : Nat} {errand : Errand} (service : Service) (seen : List Graph)
    (h : session.awaiting[place]? = some errand) :
    session.inFlight.Perm
      (errand.ticket?.toList ++ (session.step (.reply place service seen)).inFlight) := by
  obtain ⟨hlt, herrand⟩ := List.getElem?_eq_some_iff.1 h
  have hperm := (List.getElem_cons_eraseIdx_perm hlt).symm.filterMap Errand.ticket?
  rw [herrand] at hperm
  have hcons : (errand :: session.awaiting.eraseIdx place).filterMap Errand.ticket?
      = errand.ticket?.toList ++ (session.awaiting.eraseIdx place).filterMap Errand.ticket? := by
    cases errand <;> rfl
  rw [hcons] at hperm
  unfold Session.inFlight
  simp only [Session.step, h, Studio.pending_resume]
  refine (hperm.append_left _).trans ?_
  rw [← List.append_assoc, ← List.append_assoc]
  exact List.perm_append_comm.append_right _

/-! ## Moves one after the other -/

theorem after_cons (move : Move) (moves : List Move) :
    session.after (move :: moves) = (session.step move).after moves := rfl

theorem after_append (moves later : List Move) :
    session.after (moves ++ later) = (session.after moves).after later := List.foldl_append

theorem sound_after (hsound : session.graph.Sound) (moves : List Move) :
    (session.after moves).graph.Sound := by
  induction moves generalizing session with
  | nil => exact hsound
  | cons move moves ih => exact ih (sound_step hsound move)

theorem sound_opening (settings : Settings) (registry : Registry) (strict : Bool) (draws : Draws) :
    (opening settings registry strict draws).graph.Sound :=
  Graph.sound_of_empty rfl rfl rfl

/-- Moves take the graph along a path that adds the nodes that they create. -/
theorem after_path (hsound : session.graph.Sound) (moves : List Move) :
    ∃ changes, Graph.Path (fun g change => ∃ move ∈ moves, Fits move g change) session.graph changes
        (session.after moves).graph ∧
      changes.filterMap Change.added? = session.created moves := by
  -- a change on the way fits the move that makes it
  induction moves generalizing session with
  | nil => exact ⟨[], .nil _, rfl⟩
  | cons move moves ih =>
      obtain ⟨first, path, hadded, _⟩ := step_path hsound move
      obtain ⟨rest, path', hadded'⟩ := ih (sound_step hsound move)
      have hfirst := path.mono fun g change hfit =>
        (⟨move, List.mem_cons_self, hfit⟩ : ∃ other ∈ move :: moves, Fits other g change)
      have hrest := path'.mono fun g change ⟨other, hother, hfit⟩ =>
        (⟨other, List.mem_cons_of_mem _ hother, hfit⟩ : ∃ other ∈ move :: moves, Fits other g change)
      refine ⟨first ++ rest, hfirst.append hrest, ?_⟩
      rw [List.filterMap_append, hadded, hadded']
      rfl

end PromptCanvas.Session
