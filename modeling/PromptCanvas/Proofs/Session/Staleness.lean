import PromptCanvas.Proofs.Session.Run

set_option autoImplicit false

/-! # Stale results

A run can lose its node while its request is in flight: the node may be removed, stopped by hand, or begun
anew. The ticket's generation tells, as long as no two runs are begun under the same one: a live node goes
by the generation of the run begun of it last, and a removed node never comes back. -/

namespace PromptCanvas.Session

variable {session : Session}

/-! ## Where tickets come from -/

theorem issued_step (hsound : session.graph.Sound) (move : Move) {ticket : Ticket}
    (h : ticket ∈ (session.step move).inFlight) :
    ticket ∈ session.inFlight ∨ session.issues move = some ticket := by
  rcases step_cases hsound move with ⟨operation, hoperation, hstep⟩ |
    ⟨_, hstep | rfl | ⟨place, service, seen, errand, rfl, hplace⟩⟩
  · rw [hstep, (inFlight_perform hsound operation).mem_iff, List.mem_append, Option.mem_toList] at h
    unfold Session.issues
    rw [hoperation]
    exact h
  · rw [hstep] at h
    exact Or.inl h
  · exact Or.inl (inFlight_takeUp.mem_iff.1 h)
  · exact Or.inl ((inFlight_reply service seen hplace).mem_iff.2 (List.mem_append_right _ h))

/-- A ticket is in flight before, between and after moves. -/
def Outstanding (session : Session) (ticket : Ticket) : List Move → Prop
  | [] => ticket ∈ session.inFlight
  | move :: moves => ticket ∈ session.inFlight ∧ (session.step move).Outstanding ticket moves

theorem Outstanding.inFlight {ticket : Ticket} {moves : List Move} (h : session.Outstanding ticket moves) :
    ticket ∈ session.inFlight := by
  cases moves with
  | nil => exact h
  | cons => exact h.1

/-- A ticket in flight has been so from the start, or since one of the moves has issued it. -/
theorem outstanding_after (hsound : session.graph.Sound) (moves : List Move) {ticket : Ticket}
    (h : ticket ∈ (session.after moves).inFlight) :
    session.Outstanding ticket moves ∨
      ∃ before move later, moves = before ++ move :: later ∧
        (session.after before).issues move = some ticket ∧
        ((session.after before).step move).Outstanding ticket later := by
  induction moves generalizing session with
  | nil => exact Or.inl h
  | cons first rest ih =>
      rcases ih (sound_step hsound first) h with hrest | ⟨before, move, later, rfl, hissued, hlater⟩
      · rcases issued_step hsound first hrest.inFlight with hbefore | hissued
        · exact Or.inl ⟨hbefore, hrest⟩
        · exact Or.inr ⟨[], first, rest, rfl, hissued, hrest⟩
      · exact Or.inr ⟨first :: before, move, later, rfl, hissued, hlater⟩

/-- Where the errand of a run is out, one of the moves has issued its ticket, which is in flight since. -/
theorem exists_issued_of_awaiting {settings : Settings} {registry : Registry} {strict : Bool}
    {draws : Draws} {moves : List Move} {place : Nat} {ticket : Ticket}
    (h : ((opening settings registry strict draws).after moves).awaiting[place]? = some (.run ticket)) :
    let start := opening settings registry strict draws
    ∃ before move later, moves = before ++ move :: later ∧
      (start.after before).issues move = some ticket ∧
      ((start.after before).step move).Outstanding ticket later ∧
      start.after moves = ((start.after before).step move).after later := by
  intro start
  have hsound : start.graph.Sound := sound_opening settings registry strict draws
  have hmem : ticket ∈ (start.after moves).inFlight :=
    List.mem_append_right _ (List.mem_filterMap.2 ⟨_, List.mem_of_getElem? h, rfl⟩)
  obtain ⟨before, move, later, rfl, hissued, hout⟩ :=
    (outstanding_after hsound moves hmem).resolve_left fun hstart => List.not_mem_nil hstart.inFlight
  exact ⟨before, move, later, rfl, hissued, hout, by rw [after_append, after_cons]⟩

/-! ## The generation of a node -/

theorem graph_step_of_operation (hsound : session.graph.Sound) {move : Move} {operation : Operation}
    (h : move.operation? = some operation) :
    (session.step move).graph = (session.studio.perform operation).1.graph :=
  congrArg Session.graph (step_of_operation hsound h)

/-- A move that begins a run leaves the node under the generation that it stamps, and its ticket names
    both. -/
theorem stamp_of_begins (hsound : session.graph.Sound) {move : Move} {id : NodeId}
    (h : session.begins move = some id) :
    ∃ node name, (session.step move).graph.get? id = some node ∧ node.generation = some name ∧
      session.stamp move = some name ∧
        ∀ ticket, session.issues move = some ticket → ticket.node = id ∧ ticket.generation = name := by
  obtain ⟨operation, issued, hoperation, hbeginning⟩ := begins_eq_some_iff.1 h
  obtain ⟨node, name, hnode, hname, hticket⟩ := Studio.generation_of_beginning hsound hbeginning
  rw [← graph_step_of_operation hsound hoperation] at hnode
  refine ⟨node, name, hnode, hname, ?_, fun ticket hissued => hticket ticket ?_⟩
  · unfold Session.stamp
    rw [h, Option.bind_some, hnode, Option.bind_some, hname]
  · obtain ⟨other, _, hother, hissuing⟩ := issues_eq_some_iff.1 hissued
    rw [hoperation, Option.some.injEq] at hother
    rw [← hother, hbeginning, Option.some.injEq, Prod.mk.injEq] at hissuing
    exact hissuing.2

theorem begins_of_issues {move : Move} {ticket : Ticket} (h : session.issues move = some ticket) :
    ∃ id, session.begins move = some id := by
  obtain ⟨operation, id, hoperation, hbeginning⟩ := issues_eq_some_iff.1 h
  exact ⟨id, begins_eq_some_iff.2 ⟨operation, some ticket, hoperation, hbeginning⟩⟩

theorem generation_step (hsound : session.graph.Sound) {move : Move} {id : NodeId}
    {node node' : Node} (hnode : session.graph.get? id = some node)
    (hnode' : (session.step move).graph.get? id = some node') (h : session.begins move ≠ some id) :
    node'.generation = node.generation := by
  obtain ⟨changes, path, _, hbegun⟩ := step_path hsound move
  refine path.generation hsound hnode hnode' fun change hchange hid => h ?_
  have hmem : id ∈ changes.filterMap Change.begun? := List.mem_filterMap.2 ⟨change, hchange, hid⟩
  rw [hbegun, Option.mem_toList] at hmem
  exact hmem

theorem live_between (hsound : session.graph.Sound) (move : Move) (moves : List Move) {id : NodeId}
    (h : id ∈ session.graph.ids) (h' : id ∈ ((session.step move).after moves).graph.ids) :
    id ∈ (session.step move).graph.ids := by
  obtain ⟨_, path, _⟩ := step_path hsound move
  have hsound' := sound_step hsound move
  obtain ⟨_, path', _⟩ := after_path hsound' moves
  refine (path.mem_ids_or_retired (Or.inl h)).resolve_right fun hretired => ?_
  exact (sound_after hsound' moves).retired id (path'.mem_retired hretired) h'

/-- A node keeps its generation until a run of it is begun anew; from then on it goes by one of the
    generations stamped since. -/
theorem generation_after (hsound : session.graph.Sound) (moves : List Move) {id : NodeId}
    {node node' : Node} (hnode : session.graph.get? id = some node)
    (hnode' : (session.after moves).graph.get? id = some node') :
    (session.rebegins id moves = false → node'.generation = node.generation) ∧
      (session.rebegins id moves = true →
        ∃ name ∈ session.stamps moves, node'.generation = some name) := by
  -- the node lives after the first move too, and the induction goes on from there
  induction moves generalizing session node with
  | nil =>
      refine ⟨fun _ => ?_, fun h => Bool.noConfusion h⟩
      exact congrArg Node.generation (Option.some.inj (hnode'.symm.trans hnode))
  | cons move moves ih =>
      have hlive := live_between hsound move moves (Graph.mem_ids_of_get? hnode)
        (Graph.mem_ids_of_get? hnode')
      obtain ⟨middle, hmiddle⟩ := Graph.exists_get?_of_mem_ids hlive
      obtain ⟨hkept, hstamped⟩ := ih (sound_step hsound move) hmiddle hnode'
      constructor
      · intro h
        obtain ⟨hmove, hmoves⟩ := Bool.or_eq_false_iff.1 h
        rw [hkept hmoves]
        exact generation_step hsound hnode hmiddle fun he => by simp [he] at hmove
      · intro h
        cases hmoves : (session.step move).rebegins id moves with
        | true =>
            obtain ⟨name, hname, hgeneration⟩ := hstamped hmoves
            exact ⟨name, List.mem_append_right _ hname, hgeneration⟩
        | false =>
            -- the first move was the last to begin a run of the node
            have hbegins : session.begins move = some id := by
              unfold Session.rebegins at h
              rw [hmoves, Bool.or_false] at h
              exact eq_of_beq h
            obtain ⟨later, name, hlater, hname, hstamp, _⟩ := stamp_of_begins hsound hbegins
            rw [hmiddle, Option.some.injEq] at hlater
            refine ⟨name, List.mem_append_left _ ?_, ?_⟩
            · rw [hstamp]
              exact List.mem_singleton_self name
            rw [hkept hmoves, hlater, hname]

theorem stamps_append (moves later : List Move) :
    session.stamps (moves ++ later) = session.stamps moves ++ (session.after moves).stamps later := by
  induction moves generalizing session with
  | nil => rfl
  | cons move moves ih =>
      show (session.stamp move).toList ++ (session.step move).stamps (moves ++ later) = _
      rw [ih, ← List.append_assoc]
      rfl

/-! ## Replies to runs -/

/-- The node of a ticket lives and runs, and no run of it was begun since the ticket was issued, that is,
    in the moves that have led from `issued` to `reached`. -/
def Holds (issued reached : Session) (later : List Move) (ticket : Ticket) : Prop :=
  (∃ node, reached.graph.get? ticket.node = some node ∧ node.status = .running) ∧
    issued.rebegins ticket.node later = false

/-- With generations that differ, a ticket is current where it holds. -/
theorem current?_isSome_iff (hsound : session.graph.Sound) {move : Move} {later : List Move}
    {ticket : Ticket} (hissued : session.issues move = some ticket)
    (hdistinct : (session.stamps (move :: later)).Nodup) :
    ((∃ node, ((session.step move).after later).studio.current? ticket = some node) ↔
      Holds (session.step move) ((session.step move).after later) later ticket) := by
  obtain ⟨id, hbegins⟩ := begins_of_issues hissued
  obtain ⟨node, name, hnode, hname, hstamp, hticket⟩ := stamp_of_begins hsound hbegins
  obtain ⟨rfl, rfl⟩ := hticket ticket hissued
  have hsound' := sound_step hsound move
  -- the move itself stamps the ticket's generation, so that no later one does
  have hfresh : ticket.generation ∉ (session.step move).stamps later := by
    have hstamps : session.stamps (move :: later)
        = ticket.generation :: (session.step move).stamps later := by
      show (session.stamp move).toList ++ (session.step move).stamps later = _
      rw [hstamp]
      rfl
    rw [hstamps] at hdistinct
    exact (List.nodup_cons.1 hdistinct).1
  constructor
  · rintro ⟨reached, hcurrent⟩
    obtain ⟨hreached, hgeneration, hrunning⟩ := Studio.current?_eq_some_iff.1 hcurrent
    refine ⟨⟨reached, hreached, hrunning⟩, Bool.eq_false_iff.2 fun hrebegun => ?_⟩
    obtain ⟨other, hother, hsame⟩ := (generation_after hsound' later hnode hreached).2 hrebegun
    rw [hgeneration, Option.some.injEq] at hsame
    exact hfresh (hsame ▸ hother)
  · rintro ⟨⟨reached, hreached, hrunning⟩, hkept⟩
    have hgeneration := (generation_after hsound' later hnode hreached).1 hkept
    exact ⟨reached, Studio.current?_eq_some_iff.2 ⟨hreached, hgeneration.trans hname, hrunning⟩⟩

/-- Where no generation was stamped twice, the reply to a run that is in flight brings the node if the ticket of
    the run still holds; if not, it brings nothing and the studio stays as it is. It fails only where there is no
    room for the trouble of the reply, which a failure never needs, and then the studio stays as it is as well. -/
theorem stale_result_dropped (settings : Settings) (registry : Registry) (strict : Bool) (draws : Draws)
    (moves : List Move) (hdistinct : ((opening settings registry strict draws).stamps moves).Nodup)
    {place : Nat} {ticket : Ticket}
    (hplace : ((opening settings registry strict draws).after moves).awaiting[place]?
      = some (.run ticket)) (service : Service) (seen : List Graph) :
    let start := opening settings registry strict draws
    let reached := start.after moves
    ∃ before move later, moves = before ++ move :: later ∧
      (start.after before).issues move = some ticket ∧
        (∀ failure, (Errand.run ticket).verdict service = .ok failure →
          (Holds ((start.after before).step move) reached later ticket →
            ∃ node, (reached.studio.resume service seen (.run ticket)).1 = .ok (some node)) ∧
          (¬ Holds ((start.after before).step move) reached later ticket →
            reached.studio.resume service seen (.run ticket) = (.ok none, reached.studio))) ∧
        ∀ container, (Errand.run ticket).verdict service = .error container →
          (∃ trouble, service.trouble? ticket.request.call = some trouble ∧ trouble.isFailure = false) ∧
          reached.studio.resume service seen (.run ticket) = (.error (.overrun container), reached.studio) := by
  intro start reached
  have hsound : start.graph.Sound := sound_opening settings registry strict draws
  obtain ⟨before, move, later, hmoves, hissued, _, hreached⟩ := exists_issued_of_awaiting hplace
  have hdistinct' : ((start.after before).stamps (move :: later)).Nodup := by
    rw [hmoves, stamps_append] at hdistinct
    exact (List.nodup_append.1 hdistinct).2.1
  have hcurrent := current?_isSome_iff (sound_after hsound before) hissued hdistinct'
  rw [← hreached] at hcurrent
  refine ⟨before, move, later, hmoves, hissued, fun failure hverdict => ⟨fun hholds => ?_, fun hstale => ?_⟩,
    fun container hverdict => ⟨?_, Studio.resume_of_overrun seen hverdict⟩⟩
  · obtain ⟨node, hnode⟩ := hcurrent.2 hholds
    obtain ⟨graph, hends, heq⟩ := Studio.resume_of_current seen hverdict hnode
    obtain ⟨_, stopped, _, _, hstopped, _⟩ := hends.stops
    exact ⟨stopped, by rw [heq, hstopped]⟩
  · refine Studio.resume_of_stale seen hverdict (Option.eq_none_iff_forall_ne_some.2 fun node hnode => ?_)
    exact hstale (hcurrent.1 ⟨node, hnode⟩)
  · obtain ⟨trouble, htrouble, hoverruns⟩ := Errand.overruns_of_verdict hverdict
    exact ⟨trouble, htrouble, hoverruns.raw⟩

/-- A run that was stopped by hand and begun anew while its request was out. -/
theorem stale_result_dropped_begun_anew :
    let start := opening {} {} false { given := ["000000000001", "first", "second"] }
    let moves : List Move :=
      [.perform (.add (.str "source-generate") none []),
        .perform (.run "node-000000000001" (some "a cat") none),
        .perform (.setStatus "node-000000000001" (.str "failed") none),
        .perform (.begin "node-000000000001")]
    let ticket : Ticket := ⟨"node-000000000001", "first", .image "a cat" "1:1"⟩
    let service : Service :=
      ⟨fun _ _ => .error (.known ⟨.quotaExceeded, "Out of quota."⟩), fun _ _ => .ok "", fun _ => .ok "",
        fun _ _ _ => .ok [], Json.stackRoom⟩
    let reached := start.after moves
    (start.stamps moves).Nodup ∧ reached.awaiting[0]? = some (.run ticket) ∧
      (Errand.run ticket).verdict service = .ok (some ⟨.quotaExceeded, "Out of quota."⟩) ∧
      ∀ seen : List Graph, ∃ before move later, moves = before ++ move :: later ∧
        (start.after before).issues move = some ticket ∧
          (Holds ((start.after before).step move) reached later ticket →
            ∃ node, (reached.studio.resume service seen (.run ticket)).1 = .ok (some node)) ∧
          (¬ Holds ((start.after before).step move) reached later ticket →
            reached.studio.resume service seen (.run ticket) = (.ok none, reached.studio)) := by
  intro start moves ticket service reached
  have hdistinct : (start.stamps moves).Nodup := by decide +kernel
  have hplace : reached.awaiting[0]? = some (.run ticket) := awaiting_of_ticket? (by decide +kernel)
  have hverdict : (Errand.run ticket).verdict service = .ok (some ⟨.quotaExceeded, "Out of quota."⟩) := rfl
  refine ⟨hdistinct, hplace, hverdict, fun seen => ?_⟩
  obtain ⟨before, move, later, hmoves, hissued, hanswered, _⟩ :=
    stale_result_dropped {} {} false _ moves hdistinct hplace service seen
  exact ⟨before, move, later, hmoves, hissued, hanswered _ hverdict⟩

end PromptCanvas.Session
