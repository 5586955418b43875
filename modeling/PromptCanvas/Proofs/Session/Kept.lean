import PromptCanvas.Proofs.Session.Run

set_option autoImplicit false

/-! # What moves keep that move no node by hand

Where no node is moved through its execution by hand, everything that happens to a graph is a quiet change,
the beginning of a run or the end of one. What these keep is kept by every move. -/

namespace PromptCanvas

/-- Quiet changes, beginnings and ends of runs keep a property of sound graphs. -/
structure Keeps (kept : Graph → Prop) : Prop where
  quiet : ∀ {g g' : Graph} {change : Change}, g.Sound → change.isQuiet = true → Graph.Step g change g' →
    kept g → kept g'
  begins : ∀ {g g' : Graph} {id : NodeId}, g.Sound → g.begin id = .ok g' → kept g → kept g'
  ends : ∀ {g g' : Graph} {id : NodeId}, g.Sound → g.Ends id g' → kept g → kept g'

namespace Keeps

variable {kept : Graph → Prop} (keeps : Keeps kept)
include keeps

section

variable {g g' : Graph} (hsound : g.Sound) (h : kept g)
include hsound h

theorem path {fit : Graph → Change → Prop} {changes : List Change} (path : Graph.Path fit g changes g')
    (hquiet : ∀ g change, fit g change → change.isQuiet = true) : kept g' :=
  (path.keeps (fun g => g.Sound ∧ kept g)
    (fun g change _ ⟨hsound, hkept⟩ hfit step =>
      ⟨step.sound hsound, keeps.quiet hsound (hquiet g change hfit) step hkept⟩) ⟨hsound, h⟩).2

theorem launches {id : NodeId} {issued : Option Ticket} (hlaunches : g.Launches id issued g') :
    kept g' := by
  have hbegun : ∀ {begun}, g.Begins id begun → begun.Sound ∧ kept begun := by
    rintro begun ⟨changes, ready, path, _, _, hbegin⟩
    have hready := path.sound hsound
    exact ⟨(Graph.Step.begin hbegin).sound hready,
      keeps.begins hready hbegin (keeps.path hsound h path fun _ _ hfit => hfit.1)⟩
  cases hlaunches with
  | waiting request hbegins hnode hname => exact (hbegun hbegins).2
  | ended hbegins hends => exact keeps.ends (hbegun hbegins).1 hends (hbegun hbegins).2

end

variable {studio : Studio} (hsound : studio.graph.Sound) (h : kept studio.graph)

section

include hsound h

theorem perform {operation : Operation} (hindirect : operation.isManual = false) :
    kept (studio.perform operation).1.graph := by
  cases hbeginning : studio.beginning operation with
  | none =>
      obtain ⟨⟨_, path, _⟩, _⟩ := Studio.perform_quiet hsound hindirect hbeginning
      exact keeps.path hsound h path fun _ _ hfit => hfit.1
  | some launched =>
      obtain ⟨id, issued⟩ := launched
      exact keeps.launches hsound h (Studio.perform_launches hsound hindirect hbeginning).1

theorem resume (service : Service) (seen : List Graph) (errand : Errand) :
    kept (studio.resume service seen errand).2.graph := by
  cases hticket : errand.ticket? with
  | none =>
      obtain ⟨⟨_, path, _⟩, _⟩ := Studio.resume_quiet studio service seen hticket
      exact keeps.path hsound h path fun _ _ hfit => hfit.1
  | some ticket =>
      obtain rfl := Errand.eq_run_of_ticket? hticket
      rcases studio.resume_run_cases service seen ticket with ⟨_, _, heq⟩ | ⟨_, _, _, heq⟩ |
        ⟨_, _, _, _, _, hends, heq⟩
      · rw [heq]
        exact h
      · rw [heq]
        exact h
      · rw [heq]
        exact keeps.ends hsound hends h

end

theorem step {session : Session} (hsound : session.graph.Sound) (h : kept session.graph) {move : Move}
    (hindirect : move.isIndirect = true) : kept (session.step move).graph := by
  rcases Session.graph_step_cases hsound move with ⟨operation, hoperation, hgraph⟩ |
    ⟨_, hgraph | ⟨service, seen, errand, hgraph⟩⟩
  · rw [hgraph]
    exact keeps.perform hsound h (Session.isManual_of_isIndirect hindirect hoperation)
  · rw [hgraph]
    exact h
  · rw [hgraph]
    exact keeps.resume hsound h service seen errand

theorem after {session : Session} (hsound : session.graph.Sound) (h : kept session.graph)
    (moves : List Move) (hindirect : ∀ move ∈ moves, move.isIndirect = true) :
    kept (session.after moves).graph := by
  induction moves generalizing session with
  | nil => exact h
  | cons move moves ih =>
      obtain ⟨hmove, hmoves⟩ := List.forall_mem_cons.1 hindirect
      exact ih (Session.sound_step hsound move) (keeps.step hsound h hmove) hmoves

end Keeps

end PromptCanvas
