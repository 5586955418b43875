import PromptCanvas.Proofs.Session.Accounting
import PromptCanvas.Proofs.Session.Staleness
import PromptCanvas.Proofs.Studio.Upload

set_option autoImplicit false

/-! # What a described upload shows

The reply to a description copies the input of its node to its output. This is the picture that was
described, unless the node was given another input in the meantime: an update can do so at any time, and
nothing else can while the run is out. -/

namespace PromptCanvas.Session

open PromptCanvas.Graph (SameInput)

variable {session : Session} {ticket : Ticket} {lost : List Ticket} {id : NodeId}

/-! ## Runs that are out -/

/-- No run of a node is begun while a ticket of it is in flight, unless by hand. -/
theorem begins_ne_of_inFlight (hsound : session.graph.Sound)
    (htracked : session.graph.Tracked (session.inFlight ++ lost)) {move : Move} (hindirect : move.isIndirect = true)
    (h : ticket ∈ session.inFlight) : session.begins move ≠ some ticket.node := by
  intro hbegins
  obtain ⟨operation, _, hoperation, hbeginning⟩ := begins_eq_some_iff.1 hbegins
  have hmanual := isManual_of_isIndirect hindirect hoperation
  obtain ⟨begun, hbegun⟩ := (Studio.perform_launches hsound hmanual hbeginning).1.begins
  -- a run begins only where no ticket is for its node
  obtain ⟨_, _, _, hnone, _⟩ := hbegun.tracked hsound htracked
  exact List.filter_eq_nil_iff.1 hnone ticket (List.mem_append_left lost h) (decide_eq_true rfl)

theorem rebegins_of_outstanding (hsound : session.graph.Sound)
    (htracked : session.graph.Tracked (session.inFlight ++ lost)) (moves : List Move)
    (hindirect : ∀ move ∈ moves, move.isIndirect = true) (h : session.Outstanding ticket moves) :
    session.rebegins ticket.node moves = false := by
  induction moves generalizing session lost with
  | nil => rfl
  | cons move moves ih =>
      obtain ⟨hmove, hmoves⟩ := List.forall_mem_cons.1 hindirect
      have hfirst := begins_ne_of_inFlight hsound htracked hmove h.1
      have hrest := ih (sound_step hsound move) (tracked_step hsound htracked hmove) hmoves h.2
      exact Bool.or_eq_false_iff.2 ⟨beq_eq_false_iff_ne.2 hfirst, hrest⟩

/-! ## Inputs -/

theorem sameInput_step (hsound : session.graph.Sound)
    (hknown : id ∈ session.graph.ids ∨ id ∈ session.graph.retired) {move : Move}
    (hbegins : session.begins move ≠ some id) (hrenews : move.renewsInput id = false) :
    SameInput id session.graph (session.step move).graph := by
  rcases graph_step_cases hsound move with ⟨operation, hoperation, hgraph⟩ |
    ⟨_, hgraph | ⟨service, seen, errand, hgraph⟩⟩
  · rw [hgraph]
    refine Studio.sameInput_perform hsound hknown (fun issued hbeginning => hbegins ?_) ?_
    · exact begins_eq_some_iff.2 ⟨operation, issued, hoperation, hbeginning⟩
    · simpa [Move.renewsInput, hoperation] using hrenews
  · rw [hgraph]
    exact .refl id _
  · rw [hgraph]
    exact Studio.sameInput_resume hsound hknown service seen errand

/-- A node keeps its input as long as no run of it is begun and no update gives it a new one. -/
theorem sameInput_after (hsound : session.graph.Sound)
    (hknown : id ∈ session.graph.ids ∨ id ∈ session.graph.retired) (moves : List Move)
    (hrebegins : session.rebegins id moves = false)
    (hrenews : ∀ move ∈ moves, move.renewsInput id = false) :
    SameInput id session.graph (session.after moves).graph := by
  induction moves generalizing session with
  | nil => exact .refl id _
  | cons move moves ih =>
      obtain ⟨hmove, hmoves⟩ := List.forall_mem_cons.1 hrenews
      obtain ⟨hfirst, hrest⟩ := Bool.or_eq_false_iff.1 hrebegins
      obtain ⟨_, path, _⟩ := step_path hsound move
      exact (sameInput_step hsound hknown (beq_eq_false_iff_ne.1 hfirst) hmove).trans
        (ih (sound_step hsound move) (path.mem_ids_or_retired hknown) hrest hmoves)

theorem pictured_of_issues (hsound : session.graph.Sound) {move : Move}
    (h : session.issues move = some ticket) : (session.step move).graph.Pictured ticket := by
  obtain ⟨operation, _, hoperation, hbeginning⟩ := issues_eq_some_iff.1 h
  rw [graph_step_of_operation hsound hoperation]
  exact Studio.pictured_perform hbeginning

/-! ## Replies to descriptions -/

/-- A reply brings the node that is seen in it. -/
theorem exists_brought {α : Type} {view : Node → α} {a : α} {reply : Except Rejection (Option Node)}
    (h : reply.toOption.join.map view = some a) : ∃ node, reply = .ok (some node) ∧ view node = a := by
  obtain ⟨node, hnode, hview⟩ := Option.map_eq_some_iff.1 h
  exact ⟨node, Http.eq_ok_of_toOption (Option.join_eq_some_iff.1 hnode), hview⟩

/-- A description that makes its node ready has copied the input of the node to its output. This is the
    picture that was sent to the service, bytes and media type, unless an update has given the node a new
    input since the run was begun. Here no node is moved by hand, or else no generation is stamped twice. -/
theorem described_upload_shown (settings : Settings) (registry : Registry) (strict : Bool) (draws : Draws)
    (moves : List Move)
    (hfresh : (∀ move ∈ moves, move.isIndirect = true) ∨
      ((opening settings registry strict draws).stamps moves).Nodup)
    {place : Nat} (hplace : ((opening settings registry strict draws).after moves).awaiting[place]?
      = some (.run ticket)) {data : Bytes} {mimeType : String}
    (hcall : (Errand.run ticket).call = .describe data mimeType) (service : Service) (seen : List Graph)
    {node : Node} (hready : node.status = .ready) :
    let start := opening settings registry strict draws
    let reached := start.after moves
    (reached.studio.resume service seen (.run ticket)).1 = .ok (some node) →
      node.outputRef = node.inputRef ∧
        ∃ before move later, moves = before ++ move :: later ∧
          (start.after before).issues move = some ticket ∧
          ((∀ other ∈ later, other.renewsInput ticket.node = false) →
            DataUrl.decodeRef? node.outputRef = some (data, mimeType)) := by
  intro start reached hresume
  have hrequest := Studio.describe_of_call hcall
  have hsound : start.graph.Sound := sound_opening settings registry strict draws
  obtain ⟨before, move, later, hmoves, hissued, hout, hafter⟩ := exists_issued_of_awaiting hplace
  have hreached : reached = ((start.after before).step move).after later := hafter
  have hbefore := sound_after hsound before
  have hcurrent := Studio.exists_current_of_resume hresume
  -- the node still runs for the ticket, so that no run of it was begun anew
  have hrebegins : ((start.after before).step move).rebegins ticket.node later = false := by
    rcases hfresh with hindirect | hdistinct
    · rw [hmoves, List.forall_mem_append, List.forall_mem_cons] at hindirect
      obtain ⟨hindirect, hmove, hlater⟩ := hindirect
      have hstart := tracked_opening settings registry strict draws
      have htracked := tracked_step hbefore (tracked_after hsound hstart before hindirect) hmove
      exact rebegins_of_outstanding (sound_step hbefore move) htracked later hlater hout
    · rw [hmoves, stamps_append] at hdistinct
      rw [hreached] at hcurrent
      exact ((current?_isSome_iff hbefore hissued (List.nodup_append.1 hdistinct).2.1).1 hcurrent).2
  obtain ⟨held, hheld⟩ := hcurrent
  obtain ⟨houtput, hinput⟩ := Studio.output_of_described hheld hrequest service seen hresume hready
  refine ⟨houtput.trans hinput.symm, before, move, later, hmoves, hissued, fun hrenews => ?_⟩
  obtain ⟨id, hbegins⟩ := begins_of_issues hissued
  obtain ⟨begun, _, hbegun, _, _, hticket⟩ := stamp_of_begins hbefore hbegins
  obtain ⟨rfl, _⟩ := hticket ticket hissued
  have hlive := Graph.mem_ids_of_get? hbegun
  have hkept := sameInput_after (sound_step hbefore move) (Or.inl hlive) later hrebegins hrenews
  rw [← hreached] at hkept
  have hpictured := hkept.pictured (pictured_of_issues hbefore hissued)
  rw [houtput]
  exact hpictured held (Studio.current?_eq_some_iff.1 hheld).1 data mimeType hrequest

/-- A picture that is described without an update in between. -/
theorem described_upload_shown_undisturbed :
    let service : Service :=
      ⟨fun _ _ => .ok [], fun _ _ => .ok "a dot", fun _ => .ok "", fun _ _ _ => .ok [], Json.stackRoom⟩
    let moves : List Move :=
      [.perform (.add (.str "source-upload") none []),
        .perform (.upload "node-000000000001" [1] "image/png")]
    let start := opening {} {} false { given := ["000000000001", "first"] }
    let reached := start.after moves
    let ticket : Ticket := ⟨"node-000000000001", "first", .describe [1] "image/png"⟩
    (∀ move ∈ moves, move.isIndirect = true) ∧ reached.awaiting[0]? = some (.run ticket) ∧
      ∃ node, (reached.studio.resume service [] (.run ticket)).1 = .ok (some node) ∧
        node.status = .ready ∧ node.outputRef = node.inputRef ∧
          ∃ before move later, moves = before ++ move :: later ∧
            (start.after before).issues move = some ticket ∧
            ((∀ other ∈ later, other.renewsInput ticket.node = false) →
              DataUrl.decodeRef? node.outputRef = some ([1], "image/png")) := by
  intro service moves start reached ticket
  have hindirect : ∀ move ∈ moves, move.isIndirect = true := by decide
  have hplace : reached.awaiting[0]? = some (.run ticket) := awaiting_of_ticket? (by decide +kernel)
  have hstatus : (reached.studio.resume service [] (.run ticket)).1.toOption.join.map Node.status
      = some .ready := by decide +kernel
  obtain ⟨node, hnode, hready⟩ := exists_brought hstatus
  exact ⟨hindirect, hplace, node, hnode, hready,
    described_upload_shown {} {} false _ moves (Or.inl hindirect) hplace rfl service [] hready hnode⟩

/-- A node that is given another picture while the first is described: it shows the other one, beside the
    description of the first. -/
theorem described_upload_replaced :
    let service : Service :=
      ⟨fun _ _ => .ok [], fun _ _ => .ok "a dot", fun _ => .ok "", fun _ _ _ => .ok [], Json.stackRoom⟩
    let updates : Json.Fields := [("input_ref", .str "data:image/png;base64,b3RoZXI=")]
    let moves : List Move :=
      [.perform (.add (.str "source-upload") none []),
        .perform (.upload "node-000000000001" [1] "image/png"),
        .perform (.update "node-000000000001" updates)]
    let reached := (opening {} {} false { given := ["000000000001", "first"] }).after moves
    let ticket : Ticket := ⟨"node-000000000001", "first", .describe [1] "image/png"⟩
    (∀ move ∈ moves, move.isIndirect = true) ∧ reached.awaiting[0]? = some (.run ticket) ∧
      (Errand.run ticket).call = .describe [1] "image/png" ∧
        ∃ node, (reached.studio.resume service [] (.run ticket)).1 = .ok (some node) ∧
          node.status = .ready ∧ DataUrl.decodeRef? node.outputRef ≠ some ([1], "image/png") := by
  intro service updates moves reached ticket
  have hplace : reached.awaiting[0]? = some (.run ticket) := awaiting_of_ticket? (by decide +kernel)
  have hseen : (reached.studio.resume service [] (.run ticket)).1.toOption.join.map
      (fun node => (node.status, DataUrl.decodeRef? node.outputRef))
        = some (.ready, some ([111, 116, 104, 101, 114], "image/png")) := by decide +kernel
  obtain ⟨node, hnode, hview⟩ := exists_brought hseen
  obtain ⟨hready, houtput⟩ := Prod.mk.inj hview
  refine ⟨by decide, hplace, rfl, node, hnode, hready, ?_⟩
  rw [houtput]
  decide

end PromptCanvas.Session
