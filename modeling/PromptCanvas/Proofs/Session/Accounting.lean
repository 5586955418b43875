import PromptCanvas.Proofs.Generation.Overrun
import PromptCanvas.Proofs.Session.Run

set_option autoImplicit false

/-! # Running nodes and tickets in flight

As long as nodes are moved through their execution by the runs of the studio only, the running nodes of a session
match the tickets in flight, together with those that were stranded: a reply whose trouble there was no room to
classify has taken its ticket out of flight and left the run of its node as it was. No other run is lost, and no
other node is left running without a run that will end it. A stranded run ends with its node. -/

namespace PromptCanvas.Session

variable {session : Session} {lost : List Ticket}

/-- The ticket that a move leaves stranded: that of a reply whose trouble there was no room to classify. -/
def strands (session : Session) : Move → Option Ticket
  | .reply place service _ =>
      (session.awaiting[place]?).bind fun errand =>
        match errand.verdict service with
        | .ok _ => none
        | .error _ => errand.ticket?
  | _ => none

/-- The tickets that moves leave stranded, in order. -/
def stranded (session : Session) : List Move → List Ticket
  | [] => []
  | move :: moves => (session.strands move).toList ++ (session.step move).stranded moves

/-- The running nodes match the tickets in flight and some that are stranded. -/
structure Accounted (session : Session) (lost : List Ticket) : Prop where
  /-- A running node has one ticket, which names its generation. -/
  running : ∀ node ∈ session.graph.nodes, node.status = .running →
    ∃ ticket, ((session.inFlight ++ lost).filter fun ticket => ticket.node = node.id) = [ticket] ∧
      node.generation = some ticket.generation
  /-- A ticket is that of a running node, or its node was deleted. -/
  tickets : ∀ ticket ∈ session.inFlight ++ lost,
    (∃ node ∈ session.graph.nodes, node.id = ticket.node ∧ node.status = .running ∧
      node.generation = some ticket.generation) ∨
      (session.graph.has ticket.node = false ∧ ticket.node ∈ session.graph.retired)

/-! ## One move -/

theorem tracked_perform (hsound : session.graph.Sound) {operation : Operation}
    (hindirect : operation.isManual = false) (h : session.graph.Tracked (session.inFlight ++ lost)) :
    (session.enter (session.studio.perform operation)).graph.Tracked
      ((session.enter (session.studio.perform operation)).inFlight ++ lost) := by
  have hperm := (inFlight_perform hsound operation).symm
  cases hbeginning : session.studio.beginning operation with
  | none =>
      obtain ⟨⟨_, path, _⟩, _⟩ := Studio.perform_quiet hsound hindirect hbeginning
      rw [hbeginning, Option.bind_none, Option.toList_none, List.append_nil] at hperm
      exact (path.tracked (fun _ _ hfit => hfit.1) hsound h).perm (hperm.append_right lost)
  | some launched =>
      obtain ⟨id, issued⟩ := launched
      obtain ⟨hlaunches, _⟩ := Studio.perform_launches hsound hindirect hbeginning
      rw [hbeginning, Option.bind_some] at hperm
      refine (hlaunches.tracked hsound h).perm (.trans ?_ (hperm.append_right lost))
      -- the new ticket comes before the stranded ones
      rw [List.append_assoc, List.append_assoc]
      exact List.perm_append_comm.append_left session.inFlight

/-- A reply takes its ticket out of flight. The ticket is stranded if there was no room for its trouble; its node
    goes on running then. -/
theorem tracked_reply (hsound : session.graph.Sound) (h : session.graph.Tracked (session.inFlight ++ lost))
    (place : Nat) (service : Service) (seen : List Graph) :
    (session.step (.reply place service seen)).graph.Tracked
      ((session.step (.reply place service seen)).inFlight ++
        ((session.strands (.reply place service seen)).toList ++ lost)) := by
  cases hplace : session.awaiting[place]? with
  | none =>
      simp only [step_reply_of_none service seen hplace, strands, hplace]
      exact h
  | some errand =>
      have hperm := (inFlight_reply service seen hplace).append_right lost
      have hgraph : (session.step (.reply place service seen)).graph
          = (session.studio.resume service seen errand).2.graph := by
        simp only [Session.step, hplace]
      simp only [hgraph, strands, hplace, Option.bind_some]
      cases hticket : errand.ticket? with
      | none =>
          obtain ⟨⟨_, path, _⟩, _⟩ := Studio.resume_quiet session.studio service seen hticket
          rw [hticket, Option.toList_none, List.nil_append] at hperm
          have htracked := (path.tracked (fun _ _ hfit => hfit.1) hsound h).perm hperm
          cases errand.verdict service <;> exact htracked
      | some ticket =>
          obtain rfl := Errand.eq_run_of_ticket? hticket
          rw [hticket] at hperm
          cases hverdict : (Errand.run ticket).verdict service with
          | ok failure => exact (h.perm hperm).resume hverdict seen
          | error container =>
              rw [Studio.resume_of_overrun seen hverdict]
              refine h.perm (hperm.trans ?_)
              simp only [Option.toList_some, List.cons_append]
              exact List.perm_middle.symm

theorem tracked_step (hsound : session.graph.Sound) (h : session.graph.Tracked (session.inFlight ++ lost))
    {move : Move} (hindirect : move.isIndirect = true) :
    (session.step move).graph.Tracked
      ((session.step move).inFlight ++ ((session.strands move).toList ++ lost)) := by
  cases move with
  | reply place service seen => exact tracked_reply hsound h place service seen
  | takeUp =>
      show (session.step .takeUp).graph.Tracked ((session.step .takeUp).inFlight ++ lost)
      rw [graph_step_takeUp]
      exact h.perm (inFlight_takeUp.symm.append_right lost)
  | perform operation =>
      exact tracked_perform hsound (isManual_of_isIndirect hindirect rfl) h
  | request incoming =>
      show (session.step (.request incoming)).graph.Tracked ((session.step (.request incoming)).inFlight ++ lost)
      rcases step_cases hsound (.request incoming) with ⟨operation, hoperation, hstep⟩ |
        ⟨_, hstep | hmove | ⟨_, _, _, _, hmove, _⟩⟩
      · rw [hstep]
        exact tracked_perform hsound (isManual_of_isIndirect hindirect hoperation) h
      · rw [hstep]
        exact h
      · cases hmove
      · cases hmove

/-! ## Moves one after the other -/

theorem tracked_after (hsound : session.graph.Sound) (h : session.graph.Tracked (session.inFlight ++ lost))
    (moves : List Move) (hindirect : ∀ move ∈ moves, move.isIndirect = true) :
    (session.after moves).graph.Tracked ((session.after moves).inFlight ++ (session.stranded moves ++ lost)) := by
  induction moves generalizing session lost with
  | nil => exact h
  | cons move moves ih =>
      obtain ⟨hmove, hmoves⟩ := List.forall_mem_cons.1 hindirect
      refine (ih (sound_step hsound move) (tracked_step hsound h hmove) hmoves).perm (.append_left _ ?_)
      rw [Session.stranded, ← List.append_assoc]
      exact List.perm_append_comm.append_right lost

/-- No ticket is stranded where there is room for the troubles of all services that reply. -/
theorem stranded_eq_nil (moves : List Move)
    (hshallow : ∀ place service seen, .reply place service seen ∈ moves →
      ∀ call trouble, service.trouble? call = some trouble → trouble.Shallow service.room) :
    session.stranded moves = [] := by
  induction moves generalizing session with
  | nil => rfl
  | cons move moves ih =>
      have hmove : session.strands move = none := by
        cases move with
        | reply place service seen =>
            simp only [strands, Option.bind_eq_none_iff]
            intro errand _
            cases hverdict : errand.verdict service with
            | ok failure => rfl
            | error container =>
                obtain ⟨trouble, htrouble, hoverruns⟩ := Errand.overruns_of_verdict hverdict
                exact absurd hoverruns (hshallow place service seen List.mem_cons_self _ trouble htrouble container)
        | perform | request | takeUp => rfl
      rw [Session.stranded, hmove, ih fun place service seen hmem =>
        hshallow place service seen (List.mem_cons_of_mem _ hmem)]
      rfl

theorem tracked_opening (settings : Settings) (registry : Registry) (strict : Bool) (draws : Draws) :
    (opening settings registry strict draws).graph.Tracked
      ((opening settings registry strict draws).inFlight ++ []) where
  names := fun _ _ hnode => absurd (Graph.mem_ids_of_get? hnode) List.not_mem_nil
  known := fun _ hticket => absurd hticket List.not_mem_nil

theorem accounted_of_tracked (hsound : session.graph.Sound)
    (h : session.graph.Tracked (session.inFlight ++ lost)) : session.Accounted lost where
  running := by
    intro node hnode hrunning
    have hnames := h.names node.id node (Graph.get?_of_mem hsound.nodup hnode)
    rw [if_pos hrunning, List.map_eq_singleton_iff] at hnames
    obtain ⟨ticket, hfilter, hname⟩ := hnames
    exact ⟨ticket, hfilter, hname.symm⟩
  tickets := by
    intro ticket hticket
    -- a ticket of a live node is current
    by_cases hlive : ticket.node ∈ session.graph.ids
    · obtain ⟨node, hnode⟩ := (h.perm (List.perm_cons_erase hticket)).current?_isSome hlive
      obtain ⟨hget, hname, hrunning⟩ := Studio.current?_eq_some_iff.1 hnode
      exact Or.inl ⟨node, Graph.mem_of_get? hget, Graph.id_of_get? hget, hrunning, hname⟩
    · exact Or.inr ⟨Graph.has_eq_false_iff.2 hlive, (h.known ticket hticket).resolve_left hlive⟩

/-- In every reached session the running nodes match the tickets in flight and the stranded ones, where no node was
    moved through its execution by hand; and none is stranded where there was room for all troubles. -/
theorem reached_accounted (settings : Settings) (registry : Registry) (strict : Bool) (draws : Draws)
    (moves : List Move) (hindirect : ∀ move ∈ moves, move.isIndirect = true) :
    let start := opening settings registry strict draws
    (start.after moves).Accounted (start.stranded moves) ∧
      ((∀ place service seen, .reply place service seen ∈ moves →
          ∀ call trouble, service.trouble? call = some trouble → trouble.Shallow service.room) →
        start.stranded moves = []) := by
  intro start
  have hsound := sound_opening settings registry strict draws
  have htracked := tracked_after hsound (tracked_opening settings registry strict draws) moves hindirect
  rw [List.append_nil] at htracked
  exact ⟨accounted_of_tracked (sound_after hsound moves) htracked, stranded_eq_nil moves⟩

/-- A node that runs and has its ticket out. -/
theorem reached_accounted_running :
    let moves : List Move :=
      [.perform (.add (.str "source-generate") none []),
        .perform (.run "node-000000000001" (some "a cat") none)]
    let start := opening {} {} false { given := ["000000000001", "first"] }
    let reached := start.after moves
    (∀ move ∈ moves, move.isIndirect = true) ∧
      reached.graph.nodes.map Node.status = [.running] ∧ reached.inFlight.length = 1 ∧
        reached.Accounted [] := by
  intro moves start reached
  have hindirect : ∀ move ∈ moves, move.isIndirect = true := by decide
  obtain ⟨haccounted, hnone⟩ := reached_accounted {} {} false { given := ["000000000001", "first"] } moves hindirect
  have hnil : start.stranded moves = [] := hnone fun place service seen hmem => by
    simp only [moves, List.mem_cons, List.not_mem_nil, or_false] at hmem
    rcases hmem with hmem | hmem <;> cases hmem
  exact ⟨hindirect, by decide +kernel, by decide +kernel, hnil ▸ haccounted⟩

/-- A node is left running and no ticket is in flight, where there was no room for the trouble of the service. -/
theorem running_without_ticket :
    let service : Service :=
      ⟨fun _ _ => .error (.opened 2000), fun _ _ => .ok "", fun _ => .ok "", fun _ _ _ => .ok [], Json.stackRoom⟩
    let moves : List Move :=
      [.perform (.add (.str "source-generate") none []),
        .perform (.run "node-000000000001" (some "a cat") none), .reply 0 service []]
    let reached := (opening {} {} false { given := ["000000000001", "first"] }).after moves
    (∀ move ∈ moves, move.isIndirect = true) ∧
      reached.graph.nodes.map Node.status = [.running] ∧ reached.inFlight = [] := by
  intro service moves reached
  let ticket : Ticket := ⟨"node-000000000001", "first", .image "a cat" "1:1"⟩
  let before := (opening {} {} false { given := ["000000000001", "first"] }).after
    [.perform (.add (.str "source-generate") none []),
      .perform (.run "node-000000000001" (some "a cat") none)]
  have hplace : before.awaiting[0]? = some (.run ticket) := awaiting_of_ticket? (by decide +kernel)
  have hverdict : (Errand.run ticket).verdict service = .error .list := by
    show (Trouble.classify Json.stackRoom (.opened 2000) "generate image").map some = _
    rw [Trouble.classify_of_overruns (Trouble.overruns_opened (by decide) (by decide))]
    rfl
  have hreached : reached = { studio := before.studio, awaiting := before.awaiting.eraseIdx 0 } := by
    show before.step (.reply 0 service []) = _
    simp only [Session.step, hplace, Studio.resume_of_overrun [] hverdict]
  rw [hreached]
  exact ⟨by decide, by decide +kernel, by decide +kernel⟩

end PromptCanvas.Session
