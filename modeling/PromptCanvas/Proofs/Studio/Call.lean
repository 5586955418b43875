import PromptCanvas.Proofs.Graph.Assignment
import PromptCanvas.Proofs.Studio.Request

set_option autoImplicit false

/-! # The call of a run

What a run asks of the service is settled when it begins: one call, which the kind of its node decides on, or
none. `Node.Calls` says which. A run that makes no call ends there and then, ready if it is of a video and
failed for want of a prompt otherwise. A run that makes one hears of the service no more than the answer to
it. -/

namespace PromptCanvas

/-! ## Answers to one call -/

/-- Two services give the same answer to a call. -/
def Service.Answers (service service' : Service) : Call → Prop
  | .image prompt aspectRatio => service.image prompt aspectRatio = service'.image prompt aspectRatio
  | .describe data mimeType => service.describe data mimeType = service'.describe data mimeType
  | .text prompt => service.text prompt = service'.text prompt
  | .animation basePrompt instruction frameCount =>
      service.animation basePrompt instruction frameCount
        = service'.animation basePrompt instruction frameCount

/-- Two services give the same answer to a call, with the same room for its trouble. -/
structure Service.Agrees (service service' : Service) (call : Call) : Prop where
  room : service.room = service'.room
  answer : service.Answers service' call

/-- An errand ends as the answer to its one call says, whatever else the service would answer. -/
theorem Studio.resume_congr (studio : Studio) {service service' : Service} (seen : List Graph) (errand : Errand)
    (h : service.Agrees service' errand.call) :
    studio.resume service seen errand = studio.resume service' seen errand := by
  obtain ⟨hroom, hanswer⟩ := h
  cases errand with
  | run ticket =>
      obtain ⟨node, generation, request⟩ := ticket
      have hcomplete : studio.complete service ⟨node, generation, request⟩
          = studio.complete service' ⟨node, generation, request⟩ := by
        cases request with
        | image prompt aspectRatio =>
            have himage : service.image prompt aspectRatio = service'.image prompt aspectRatio := hanswer
            simp only [Studio.complete, hroom, himage]
        | describe data mimeType =>
            have hdescribe : service.describe data mimeType = service'.describe data mimeType := hanswer
            simp only [Studio.complete, hroom, hdescribe]
        | podcast prompt =>
            have htext : service.text prompt = service'.text prompt := hanswer
            simp only [Studio.complete, hroom, htext]
      simp only [Studio.resume, hcomplete]
  | boost before =>
      have htext : service.text (Errand.boostPrompt before) = service'.text (Errand.boostPrompt before) :=
        hanswer
      simp only [Studio.resume, hroom, htext]
  | animation basePrompt instruction frameCount =>
      have hframes : service.animation basePrompt instruction frameCount
          = service'.animation basePrompt instruction frameCount := hanswer
      simp only [Studio.resume, hroom, hframes]

/-! ## Nodes about to run -/

namespace Node

/-- A node with the parameters of a run: a custom text if one is given, and an aspect ratio if one is given
    and not empty. -/
def withParameters (node : Node) (custom aspectRatio : Option String) : Node :=
  { node with
    customText := custom.or node.customText
    aspectRatio := (aspectRatio.filter (· ≠ "")).getD node.aspectRatio }

theorem applyAll_parameterEdits_eq (node : Node) (custom aspectRatio : Option String) :
    node.applyAll (Studio.parameterEdits custom aspectRatio) = node.withParameters custom aspectRatio := by
  unfold Studio.parameterEdits withParameters
  cases custom with
  | none =>
      cases aspectRatio with
      | none => rfl
      | some ratio => by_cases hempty : ratio = "" <;> simp [hempty, applyAll, apply, Option.filter_some]
  | some text =>
      cases aspectRatio with
      | none => rfl
      | some ratio => by_cases hempty : ratio = "" <;> simp [hempty, applyAll, apply, Option.filter_some]

/-- The call that the run of a node makes, if it makes one. A podcast is asked for unless the base prompt is
    blank, a description unless the input is none or cannot be decoded, and a picture, for all kinds but these
    and videos, unless the prompt that is built is blank. -/
structure Calls (registry : Registry) (custom : Option String) (node : Node) (call : Option Call) : Prop where
  video : node.kind = .veoVideo → call = none
  podcast : node.kind = .generatePodcast →
    call = if Text.blank (node.basePrompt.getD "") then none
      else some (.text (Instruction.podcast (node.basePrompt.getD "")))
  upload : node.kind = .sourceUpload →
    call = (DataUrl.decodeRef? node.inputRef).map fun decoded => .describe decoded.1 decoded.2
  image : node.kind ∉ [.veoVideo, .generatePodcast, .sourceUpload] →
    call = if Text.blank (Studio.buildPrompt registry node custom).1 then none
      else some (.image (Studio.buildPrompt registry node custom).1 node.aspectRatio)

end Node

namespace Graph

variable {g : Graph} {id : NodeId} {node : Node}

/-- A live node can be edited; it holds then what the edits have written. -/
theorem exists_edited (hnode : g.get? id = some node) (edits : List Edit) :
    ∃ g' after, g.edit id edits = .ok g' ∧ g'.get? id = some after ∧ after.status = node.status ∧
      ∀ field, after.held field = (node.applyAll edits).held field :=
  ⟨_, _, edit_eq_ok_iff.2 ⟨mem_ids_of_get? hnode, rfl⟩,
    get?_alter_self (·.applyAll edits) (fun other => other.applyAll_id _) hnode, node.applyAll_status edits,
    Node.held_tick _ _⟩

/-- A live node can be moved to a status that may follow; it holds then what it held before. -/
theorem exists_moved {status : Status} (hnode : g.get? id = some node) (hnext : status ∈ node.status.next)
    (failure : Option Failure) :
    ∃ g' after, g.setStatus id status failure = .ok g' ∧ g'.get? id = some after ∧ after.status = status ∧
      (status = .failed → after.failure = failure) ∧ ∀ field, after.held field = node.held field :=
  ⟨_, _, setStatus_eq_ok_iff.2 ⟨node, hnode, hnext, rfl⟩, get?_alter_self (Node.moved status failure)
    (fun _ => rfl) hnode, rfl, fun hfailed => if_pos hfailed, fun field => by cases field <;> rfl⟩

theorem Begins.childless {begun : Graph} (h : g.Begins id begun) (hsound : g.Sound) : begun.childIds id = [] := by
  obtain ⟨_, ready, path, _, hleaf, hbegin⟩ := h
  obtain ⟨_, _, _, rfl⟩ := begin_eq_ok_iff.1 hbegin
  show ready.childIds id = []
  rw [(path.sound hsound).lists, List.map_eq_nil_iff, List.filter_eq_nil_iff]
  exact fun node hnode => by simpa using hleaf node hnode

theorem Launches.childless {issued : Option Ticket} {g' : Graph} (h : g.Launches id issued g')
    (hsound : g.Sound) : g'.childIds id = [] := by
  cases h with
  | waiting _ hbegins _ _ => exact hbegins.childless hsound
  | ended hbegins hends =>
      have hbegun := hbegins.childless hsound
      cases hends with
      | failed _ hset =>
          obtain ⟨_, _, _, rfl⟩ := setStatus_eq_ok_iff.1 hset
          exact hbegun
      | ready _ hedit hset =>
          obtain ⟨_, rfl⟩ := edit_eq_ok_iff.1 hedit
          obtain ⟨_, _, _, rfl⟩ := setStatus_eq_ok_iff.1 hset
          exact hbegun

end Graph

namespace Studio

variable {studio : Studio} {id : NodeId} {node : Node}

/-- A node as its run finds it holds the parameters of the run. -/
theorem held_running (node : Node) (custom aspectRatio : Option String) (name : String) (tick : Nat)
    (field : Field) :
    (running node custom aspectRatio name tick).held field
      = (node.withParameters custom aspectRatio).held field := by
  rw [← node.applyAll_parameterEdits_eq]
  cases field <;> rfl

/-- The call that a plan comes to. -/
def Plan.call? : Plan → Option Call
  | .submit request => some request.call
  | .finishVideo => none
  | .refuse _ => none

theorem calls_of_plan (registry : Registry) (node : Node) (custom : Option String) :
    node.Calls registry custom (plan registry node custom).1.call? := by
  refine ⟨fun hkind => ?video, fun hkind => ?podcast, fun hkind => ?upload, fun hkind => ?image⟩
  case video =>
    simp only [plan, hkind]
    rfl
  case podcast =>
    simp only [plan, hkind]
    split <;> rfl
  case upload =>
    simp only [plan, hkind]
    cases DataUrl.decodeRef? node.inputRef <;> rfl
  case image =>
    simp only [List.mem_cons, List.not_mem_nil, or_false, not_or] at hkind
    obtain ⟨hvideo, hpodcast, hupload⟩ := hkind
    unfold plan
    split
    · next h => exact absurd h hvideo
    · next h => exact absurd h hpodcast
    · next h => exact absurd h hupload
    · simp only
      split <;> rfl

theorem plan_of_video (registry : Registry) (hkind : node.kind = .veoVideo) (custom : Option String) :
    (plan registry node custom).1 = .finishVideo := by
  simp only [plan, hkind]

/-! ## What a run leaves when it begins -/

/-- What a run leaves when it has begun: its call is the one that its node makes with the parameters of the
    run, and these are written to the node. With a call the node runs, under the generation that the ticket
    names. Without one a video is ready, and any other node has failed for want of a prompt. -/
structure Opened (studio : Studio) (id : NodeId) (custom aspectRatio : Option String) (node : Node)
    (issued : Option Ticket) (after : Node) : Prop where
  calls : (node.withParameters custom aspectRatio).Calls studio.registry custom
    (issued.map fun ticket => ticket.request.call)
  held : ∀ field, field ≠ .videoComplete →
    after.held field = (node.withParameters custom aspectRatio).held field
  waits : ∀ ticket, issued = some ticket →
    ticket.node = id ∧ after.status = .running ∧ after.generation = some ticket.generation
  ready : node.kind = .veoVideo → after.status = .ready
  failed : issued = none → node.kind ≠ .veoVideo →
    after.status = .failed ∧ after.failure.map Failure.kind = some .emptyPrompt

/-- What a plan leaves of a running node when it is carried out: it waits for a request, or it is ready, or it
    has failed. -/
theorem exists_carried (hnode : studio.graph.get? id = some node) (hrunning : node.status = .running)
    (generation : String) (plan : Plan) :
    ∃ issued later after, studio.carryOut id generation plan = .ok (issued, later) ∧
      later.graph.get? id = some after ∧
      issued.map (fun ticket => ticket.request.call) = plan.call? ∧
      (∀ field, field ≠ .videoComplete → after.held field = node.held field) ∧
      (∀ ticket, issued = some ticket → ticket.node = id ∧ ticket.generation = generation ∧ after = node) ∧
      (plan = .finishVideo → after.status = .ready) ∧
      (∀ message, plan = .refuse message →
        after.status = .failed ∧ after.failure = some ⟨.emptyPrompt, message⟩) := by
  cases plan with
  | submit request =>
      refine ⟨some ⟨id, generation, request⟩, studio, node, rfl, hnode, rfl, fun _ _ => rfl, ?_, by simp,
        by simp⟩
      rintro ticket ⟨⟩
      exact ⟨rfl, rfl, rfl⟩
  | finishVideo =>
      obtain ⟨edited, done, hedit, hdone, hsame, hedited⟩ := Graph.exists_edited hnode [.videoComplete true]
      have hnext : Status.ready ∈ done.status.next := by rw [hsame, hrunning]; decide
      obtain ⟨graph, after, hset, hafter, hready, _, hheld⟩ := Graph.exists_moved hdone hnext none
      refine ⟨none, { studio with graph := graph }, after, ?_, hafter, rfl, fun field hfield => ?_, by simp,
        fun _ => hready, by simp⟩
      · simp only [carryOut, hedit, hset, bind, Except.bind]
      · have hne : ∀ edit ∈ [Edit.videoComplete true], edit.field ≠ field := by
          simpa [Edit.field] using hfield.symm
        rw [hheld, hedited, Node.held_applyAll_of_forall_ne hne]
  | refuse message =>
      have hnext : Status.failed ∈ node.status.next := by rw [hrunning]; decide
      obtain ⟨graph, after, hset, hafter, hfailed, hfailure, hheld⟩ :=
        Graph.exists_moved hnode hnext (some ⟨.emptyPrompt, message⟩)
      refine ⟨none, { studio with graph := graph }, after, ?_, hafter, rfl, fun field _ => hheld field, by simp,
        by simp, ?_⟩
      · simp only [carryOut, hset, bind, Except.bind]
      · rintro other ⟨⟩
        exact ⟨hfailed, hfailure rfl⟩

/-- A run of a live node that is not running begins, and leaves nothing below the node. -/
theorem begin_opened (hsound : studio.graph.Sound) (hnode : studio.graph.get? id = some node)
    (hstatus : node.status ≠ .running) (custom aspectRatio : Option String) :
    ∃ issued later after, studio.begin id custom aspectRatio = .ok (issued, later) ∧
      later.graph.get? id = some after ∧ later.graph.descendants id = [] ∧
      studio.Opened id custom aspectRatio node issued after := by
  obtain ⟨begun, name, tick, _, hbegun, heq⟩ := begin_eq hsound hnode hstatus custom aspectRatio
  generalize hfound : running node custom aspectRatio name tick = found at hbegun heq
  have hrunning : found.status = .running := by rw [← hfound]; rfl
  obtain ⟨issued, later, after, hcarried, hafter, hcall, hheld, hwaits, hready, hfailed⟩ :=
    @exists_carried { studio with graph := begun, registry := (plan studio.registry found custom).2 } id found
      hbegun hrunning name (plan studio.registry found custom).1
  refine ⟨issued, later, after, heq.trans hcarried, hafter, ?leaf, ?calls, ?held, ?waits, ?ready, ?failed⟩
  case leaf =>
    have hlaunches := (launches_of_begin hsound (heq.trans hcarried)).1
    exact Graph.descendants_of_childless (hlaunches.childless hsound)
  case calls =>
    -- neither the stamp nor the execution of a node has a part in its call
    have hcalls := calls_of_plan studio.registry found custom
    rw [hcall]
    rw [← hfound, running, node.applyAll_parameterEdits_eq] at hcalls ⊢
    exact ⟨hcalls.video, hcalls.podcast, hcalls.upload, hcalls.image⟩
  case held =>
    intro field hfield
    rw [hheld field hfield, ← hfound, held_running]
  case waits =>
    intro ticket hticket
    obtain ⟨hid, hname, rfl⟩ := hwaits ticket hticket
    exact ⟨hid, hrunning, by rw [hname, ← hfound]; rfl⟩
  case ready =>
    intro hkind
    have hkind' : found.kind = .veoVideo := by rw [← hfound]; exact (node.applyAll_kind _).trans hkind
    exact hready (plan_of_video _ hkind' custom)
  case failed =>
    intro hnone hkind
    rw [hnone] at hcall
    cases hplan : (plan studio.registry found custom).1 with
    | submit request => simp [hplan, Plan.call?] at hcall
    | finishVideo =>
        have hkind' := kind_of_plan hplan
        rw [← hfound] at hkind'
        exact absurd ((node.applyAll_kind _).symm.trans hkind') hkind
    | refuse message =>
        obtain ⟨hstatus, hfailure⟩ := hfailed message hplan
        exact ⟨hstatus, by rw [hfailure]; rfl⟩

end Studio

end PromptCanvas
