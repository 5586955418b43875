import PromptCanvas.Proofs.Session.Upload
import PromptCanvas.Proofs.Studio.Result

set_option autoImplicit false

/-! # What ready nodes show

A node becomes ready only by a run that has written its result first: a video by its beginning, all others
by the reply to their run. From then on the result stays, until another run of the node writes a new one. -/

namespace PromptCanvas.Session

variable {session : Session} {ticket : Ticket} {id : NodeId}

/-! ## Completed runs -/

/-- The last run of a node is complete: one of the moves has issued its ticket and none has begun a run of
    the node since, and the service has replied to the ticket. -/
def Completed (start : Session) (moves : List Move) (ticket : Ticket) (service : Service) : Prop :=
  ∃ before begun between place seen later,
    moves = before ++ begun :: (between ++ .reply place service seen :: later) ∧
      (start.after before).issues begun = some ticket ∧
      (((start.after before).step begun).after between).awaiting[place]? = some (.run ticket) ∧
      ((start.after before).step begun).rebegins ticket.node
        (between ++ .reply place service seen :: later) = false

/-- What a node shows when it is ready after moves. -/
structure ShowsResult (start : Session) (moves : List Move) (node : Node) : Prop where
  video : node.kind = .veoVideo → node.videoComplete = true
  podcast : node.kind = .generatePodcast → ∃ text, node.textOutput = some text
  upload : node.kind = .sourceUpload → ∃ picture, DataUrl.decodeRef? node.outputRef = some picture
  /-- Every other node shows the picture that the service gave to its last run, and the prompt of that
      run. -/
  picture : node.kind ∉ [.veoVideo, .generatePodcast, .sourceUpload] →
    ∃ ticket service prompt aspectRatio data, Completed start moves ticket service ∧
      ticket.node = node.id ∧ ticket.request = .image prompt aspectRatio ∧
      service.image prompt aspectRatio = .ok data ∧
      node.outputRef = some (DataUrl.encode data start.studio.settings.imageMimeType) ∧
      node.basePrompt = some prompt ∧ Text.blank prompt = false

theorem rebegins_append (moves later : List Move) :
    session.rebegins id (moves ++ later)
      = (session.rebegins id moves || (session.after moves).rebegins id later) := by
  induction moves generalizing session with
  | nil => rfl
  | cons move moves ih =>
      show (session.begins move == some id || (session.step move).rebegins id (moves ++ later)) = _
      rw [ih, ← Bool.or_assoc]
      rfl

/-- A move that begins no run of the node leaves its last run complete. -/
theorem Completed.append {start : Session} {moves : List Move} {service : Service}
    (h : Completed start moves ticket service) {move : Move}
    (hbegins : (start.after moves).begins move ≠ some ticket.node) :
    Completed start (moves ++ [move]) ticket service := by
  obtain ⟨before, begun, between, place, seen, later, rfl, hissued, hplace, hrebegins⟩ := h
  refine ⟨before, begun, between, place, seen, later ++ [move], by simp, hissued, hplace, ?_⟩
  rw [after_append, after_cons] at hbegins
  have hlast : (((start.after before).step begun).after
      (between ++ .reply place service seen :: later)).rebegins ticket.node [move] = false := by
    simpa [Session.rebegins] using hbegins
  have hsplit : between ++ Move.reply place service seen :: (later ++ [move])
      = (between ++ Move.reply place service seen :: later) ++ [move] := by simp
  rw [hsplit, rebegins_append, hrebegins, hlast]
  rfl

theorem ShowsResult.append {start : Session} {moves : List Move} {before node : Node}
    (h : ShowsResult start moves before) (hshown : node.shown = before.shown) (hid : node.id = before.id)
    {move : Move} (hbegins : (start.after moves).begins move ≠ some before.id) :
    ShowsResult start (moves ++ [move]) node := by
  simp only [Node.shown, Prod.mk.injEq] at hshown
  obtain ⟨hkind, houtput, hbase, htext, hvideo⟩ := hshown
  refine { video := ?_, podcast := ?_, upload := ?_, picture := ?_ }
  · rw [hkind, hvideo]
    exact h.video
  · rw [hkind, htext]
    exact h.podcast
  · rw [hkind, houtput]
    exact h.upload
  · rw [hkind, houtput, hbase, hid]
    intro hpicture
    obtain ⟨ticket, service, prompt, aspectRatio, data, hcompleted, hnode, hrest⟩ := h.picture hpicture
    exact ⟨ticket, service, prompt, aspectRatio, data, hcompleted.append (hnode ▸ hbegins), hnode, hrest⟩

/-! ## The move that makes a node ready -/

theorem settings_step (hsound : session.graph.Sound) (move : Move) :
    (session.step move).studio.settings = session.studio.settings := by
  rcases step_cases hsound move with ⟨operation, _, hstep⟩ |
    ⟨_, hstep | rfl | ⟨place, service, seen, errand, rfl, hplace⟩⟩
  · rw [hstep]
    exact Studio.settings_perform operation
  · rw [hstep]
  · simp only [Session.step, Studio.takeUp?]
    cases session.studio.pending <;> rfl
  · simp only [Session.step, hplace]
    exact Studio.settings_resume service seen errand

theorem settings_after (hsound : session.graph.Sound) (moves : List Move) :
    (session.after moves).studio.settings = session.studio.settings := by
  induction moves generalizing session with
  | nil => rfl
  | cons move moves ih => exact (ih (sound_step hsound move)).trans (settings_step hsound move)

/-- A node that is ready after a move was so before and shows what it showed, or is a completed video, or
    is what the reply to its run has brought. -/
theorem ready_of_step (hsound : session.graph.Sound) {move : Move} (hindirect : move.isIndirect = true)
    (hspares : move.sparesResults = true) {node : Node}
    (hnode : (session.step move).graph.get? id = some node) (hready : node.status = .ready) :
    (∃ before, session.graph.get? id = some before ∧ before.status = .ready ∧ node.shown = before.shown ∧
        session.begins move ≠ some id) ∨
      (node.kind = .veoVideo ∧ node.videoComplete = true) ∨
      ∃ place service seen ticket held, move = .reply place service seen ∧
        session.awaiting[place]? = some (.run ticket) ∧ ticket.node = id ∧
        session.studio.current? ticket = some held ∧
        (session.studio.resume service seen (.run ticket)).1 = .ok (some node) := by
  rcases step_cases hsound move with ⟨operation, hoperation, hstep⟩ |
    ⟨hnone, hstep | rfl | ⟨place, service, seen, errand, rfl, hplace⟩⟩
  · rw [hstep] at hnode
    have hgives : operation.givesResult = false := by
      simpa [Move.sparesResults, hoperation] using hspares
    rcases Studio.ready_of_perform hsound (isManual_of_isIndirect hindirect hoperation) hgives hnode hready
      with ⟨before, hbefore, hstatus, hshown, hbegins⟩ | hvideo
    · refine Or.inl ⟨before, hbefore, hstatus, hshown, fun h => ?_⟩
      obtain ⟨other, issued, hother, hbeginning⟩ := begins_eq_some_iff.1 h
      obtain rfl : operation = other := Option.some.inj (hoperation.symm.trans hother)
      exact hbegins issued hbeginning
    · exact Or.inr (Or.inl hvideo)
  · rw [hstep] at hnode
    exact Or.inl ⟨node, hnode, hready, rfl, by simp [Session.begins, hnone]⟩
  · rw [graph_step_takeUp] at hnode
    exact Or.inl ⟨node, hnode, hready, rfl, by simp [Session.begins, hnone]⟩
  · simp only [Session.step, hplace] at hnode
    rcases Studio.ready_of_resume hsound hnode hready with
      ⟨before, hbefore, hstatus, hshown⟩ | ⟨ticket, held, rfl, hticket, hcurrent, hbrought⟩
    · exact Or.inl ⟨before, hbefore, hstatus, hshown, by simp [Session.begins, hnone]⟩
    · exact Or.inr (Or.inr ⟨place, service, seen, ticket, held, rfl, hplace, hticket, hcurrent, hbrought⟩)

/-! ## Replies to runs -/

theorem suits_of_issues (hsound : session.graph.Sound) {move : Move}
    (h : session.issues move = some ticket) : (session.step move).graph.Suits ticket := by
  obtain ⟨operation, _, hoperation, hbeginning⟩ := issues_eq_some_iff.1 h
  rw [graph_step_of_operation hsound hoperation]
  exact Studio.suits_perform hbeginning

/-- A ticket suits the graph as long as no run of its node is begun and no update gives the node another
    input. -/
theorem suits_after (hsound : session.graph.Sound) (hlive : ticket.node ∈ session.graph.ids)
    (h : session.graph.Suits ticket) (moves : List Move)
    (hrebegins : session.rebegins ticket.node moves = false)
    (hrenews : ∀ move ∈ moves, move.renewsInput ticket.node = false) :
    (session.after moves).graph.Suits ticket := by
  obtain ⟨_, path, _⟩ := after_path hsound moves
  have hfixed := path.retains hsound (Or.inl hlive) fun _ change _ => change.leaves_fixed ticket.node
  have hinput := sameInput_after hsound (Or.inl hlive) moves hrebegins hrenews
  refine Graph.Retains.suits (fun node' hnode' => ?_) h
  obtain ⟨node, hnode, hkept⟩ := hfixed node' hnode'
  obtain ⟨same, hsame, hkept'⟩ := hinput node' hnode'
  obtain rfl : node = same := Option.some.inj (hnode.symm.trans hsame)
  exact ⟨node, hnode, congrArg₂ Prod.mk (congrArg Prod.fst hkept) hkept'⟩

theorem renewsInput_of_sparesResults {move : Move} (h : move.sparesResults = true) (id : NodeId) :
    move.renewsInput id = false := by
  unfold Move.sparesResults at h
  unfold Move.renewsInput
  cases hoperation : move.operation? with
  | none => rfl
  | some operation =>
      rw [hoperation, Option.all_some, Bool.not_eq_true'] at h
      rw [Option.any_some]
      cases operation with
      | update target updates =>
          have hinput : updates.has "input_ref" = false := by
            have hnames := List.any_eq_false.1 h "input_ref" (by simp [Operation.resultNames])
            simpa using hnames
          simp [Operation.renewsInput, hinput]
      | add | begin | setStatus | delete | invalidate | run | start | upload | enhance | animation
      | preview => rfl

variable {settings : Settings} {registry : Registry} {strict : Bool} {draws : Draws}

/-- The reply to a run that leaves its node ready completes the run. -/
theorem showsResult_of_reply {moves : List Move}
    (hmoves : ∀ move ∈ moves, move.isIndirect = true ∧ move.sparesResults = true) {place : Nat}
    (hplace : ((opening settings registry strict draws).after moves).awaiting[place]?
      = some (.run ticket)) {held node : Node}
    (hcurrent : ((opening settings registry strict draws).after moves).studio.current? ticket = some held)
    {service : Service} {seen : List Graph}
    (hbrought : (((opening settings registry strict draws).after moves).studio.resume service seen
      (.run ticket)).1 = .ok (some node)) (hid : node.id = ticket.node) (hready : node.status = .ready) :
    ShowsResult (opening settings registry strict draws) (moves ++ [.reply place service seen]) node := by
  have hsound := sound_opening settings registry strict draws
  obtain ⟨before, begun, between, rfl, hissued, hout, hafter⟩ := exists_issued_of_awaiting hplace
  rw [List.forall_mem_append, List.forall_mem_cons] at hmoves
  obtain ⟨hbefore, hbegun, hbetween⟩ := hmoves
  have hsound₁ := sound_after hsound before
  have hsound₂ := sound_step hsound₁ begun
  -- since the run was begun, no other run of the node was, and its ticket still suits the graph
  have htracked := tracked_step hsound₁ (tracked_after hsound
    (tracked_opening settings registry strict draws) before fun move h => (hbefore move h).1) hbegun.1
  have hrebegins := rebegins_of_outstanding hsound₂ htracked between (fun move h => (hbetween move h).1) hout
  obtain ⟨id, hbegins⟩ := begins_of_issues hissued
  obtain ⟨first, _, hfirst, _, _, hticket⟩ := stamp_of_begins hsound₁ hbegins
  obtain ⟨rfl, _⟩ := hticket ticket hissued
  have hsuits := suits_after hsound₂ (Graph.mem_ids_of_get? hfirst) (suits_of_issues hsound₁ hissued) between
    hrebegins fun move h => renewsInput_of_sparesResults (hbetween move h).2 _
  rw [← hafter] at hsuits
  have hcalls := hsuits held (Studio.current?_eq_some_iff.1 hcurrent).1
  obtain ⟨hkind, hshown⟩ := Studio.shown_of_resume hcurrent hbrought hready
  cases hrequest : ticket.request with
  | image prompt aspectRatio =>
      rw [hrequest] at hcalls
      simp only [hrequest] at hshown
      obtain ⟨hpicture, hblank⟩ := hcalls
      obtain ⟨data, hreply, houtput, hbase⟩ := hshown
      rw [settings_after hsound] at houtput
      rw [← hkind] at hpicture
      refine { video := fun h => ?_, podcast := fun h => ?_, upload := fun h => ?_, picture := fun _ => ?_ }
      · simp [h] at hpicture
      · simp [h] at hpicture
      · simp [h] at hpicture
      · refine ⟨ticket, service, prompt, aspectRatio, data, ?_, hid.symm, hrequest, hreply, houtput, hbase,
          hblank⟩
        refine ⟨before, begun, between, place, seen, [], by simp, hissued, hafter ▸ hplace, ?_⟩
        rw [rebegins_append, hrebegins]
        rfl
  | describe data mimeType =>
      rw [hrequest] at hcalls
      simp only [hrequest] at hshown
      obtain ⟨hupload, hinput⟩ := hcalls
      rw [← hkind] at hupload
      refine { video := fun h => ?_, podcast := fun h => ?_, upload := fun _ => ?_, picture := fun h => ?_ }
      · simp [h] at hupload
      · simp [h] at hupload
      · exact ⟨(data, mimeType), by rw [hshown, hinput]⟩
      · simp [hupload] at h
  | podcast prompt =>
      rw [hrequest] at hcalls
      simp only [hrequest] at hshown
      have hpodcast : node.kind = .generatePodcast := hkind.trans hcalls
      refine { video := fun h => ?_, podcast := fun _ => hshown, upload := fun h => ?_, picture := fun h => ?_ }
      · simp [h] at hpodcast
      · simp [h] at hpodcast
      · simp [hpodcast] at h

/-! ## Ready nodes -/

/-- Where no node is moved by hand and no update names what runs start from or have written, every ready
    node shows the result of its kind: that a video is complete, the text of a podcast, a picture that can
    be read for an upload, and for all others the picture that the service gave to the node's last run,
    beside the prompt of that run, which is not blank. -/
theorem ready_shows_result (settings : Settings) (registry : Registry) (strict : Bool) (draws : Draws)
    (moves : List Move) (hmoves : ∀ move ∈ moves, move.isIndirect = true ∧ move.sparesResults = true) :
    ∀ node ∈ ((opening settings registry strict draws).after moves).graph.nodes, node.status = .ready →
      ShowsResult (opening settings registry strict draws) moves node := by
  have hsound := sound_opening settings registry strict draws
  suffices hfound : ∀ id node, ((opening settings registry strict draws).after moves).graph.get? id = some node →
      node.status = .ready → ShowsResult (opening settings registry strict draws) moves node by
    intro node hnode
    exact hfound node.id node (Graph.get?_of_mem (sound_after hsound moves).nodup hnode)
  -- from the last move back: what a node shows now it showed before, or the last move has written it
  induction moves using List.reverseRecOn with
  | nil => exact fun id node hnode => absurd (Graph.mem_ids_of_get? hnode) List.not_mem_nil
  | append_singleton moves move ih =>
      rw [List.forall_mem_append, List.forall_mem_singleton] at hmoves
      obtain ⟨hmoves, hindirect, hspares⟩ := hmoves
      intro id node hnode hready
      rw [after_append] at hnode
      rcases ready_of_step (sound_after hsound moves) hindirect hspares hnode hready with
        ⟨before, hbefore, hstatus, hshown, hbegins⟩ | ⟨hkind, hvideo⟩ |
        ⟨place, service, seen, ticket, held, rfl, hplace, rfl, hcurrent, hbrought⟩
      · have hid := Graph.id_of_get? hbefore
        exact (ih hmoves id before hbefore hstatus).append hshown ((Graph.id_of_get? hnode).trans hid.symm)
          (hid.symm ▸ hbegins)
      · refine { video := fun _ => hvideo, podcast := fun h => ?_, upload := fun h => ?_,
                 picture := fun h => ?_ }
        · simp [h] at hkind
        · simp [h] at hkind
        · simp [hkind] at h
      · exact showsResult_of_reply hmoves hplace hcurrent hbrought (Graph.id_of_get? hnode) hready

/-- A picture that was asked for twice: the node shows that of the second run. -/
theorem ready_shows_result_of_second_run :
    let first : Service :=
      ⟨fun _ _ => .ok [1], fun _ _ => .ok "", fun _ => .ok "", fun _ _ _ => .ok [], Json.stackRoom⟩
    let second : Service :=
      ⟨fun _ _ => .ok [2], fun _ _ => .ok "", fun _ => .ok "", fun _ _ _ => .ok [], Json.stackRoom⟩
    let moves : List Move :=
      [.perform (.add (.str "source-generate") none []),
        .perform (.run "node-000000000001" (some "a cat") none), .reply 0 first [],
        .perform (.run "node-000000000001" (some "a dog") none), .reply 0 second []]
    let draws : Draws := { given := ["000000000001", "first", "second"] }
    (∀ move ∈ moves, move.isIndirect = true ∧ move.sparesResults = true) ∧
      ∃ node ∈ ((opening {} {} false draws).after moves).graph.nodes, node.status = .ready ∧
        node.outputRef = some (DataUrl.encode [2] "image/png") ∧ node.basePrompt = some "a dog" ∧
          ShowsResult (opening {} {} false draws) moves node := by
  intro first second moves draws
  have hmoves : ∀ move ∈ moves, move.isIndirect = true ∧ move.sparesResults = true := by
    decide +kernel
  have hseen : ((opening {} {} false draws).after moves).graph.nodes.map
      (fun node => (node.status, node.outputRef, node.basePrompt))
        = [(.ready, some (DataUrl.encode [2] "image/png"), some "a dog")] := by decide +kernel
  obtain ⟨node, hnodes, hview⟩ := List.map_eq_singleton_iff.1 hseen
  have hnode : node ∈ ((opening {} {} false draws).after moves).graph.nodes := by
    rw [hnodes]
    exact List.mem_singleton_self node
  obtain ⟨hready, hview⟩ := Prod.mk.inj hview
  obtain ⟨houtput, hbase⟩ := Prod.mk.inj hview
  exact ⟨hmoves, node, hnode, hready, houtput, hbase,
    ready_shows_result {} {} false draws moves hmoves node hnode hready⟩

end PromptCanvas.Session
