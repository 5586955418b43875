import PromptCanvas.Codec.DataUrl
import PromptCanvas.Generation.Service
import PromptCanvas.Graph.Change
import PromptCanvas.Graph.Removal
import PromptCanvas.Recipe.Registry
import PromptCanvas.Script.Prompt

set_option autoImplicit false

/-! # The studio

The studio holds a graph, the recipes that its nodes are run with, and the runs that were started and
not yet completed. Each of these is a `Ticket`: it names the node, the generation under which the run
was begun, and the request that the run makes. -/

namespace PromptCanvas

/-- The request of a run. -/
inductive Request where
  | image (prompt aspectRatio : String)
  | describe (data : Bytes) (mimeType : String)
  | podcast (prompt : String)
deriving DecidableEq, Repr

/-- The call that a request makes. -/
def Request.call : Request → Call
  | .image prompt aspectRatio => .image prompt aspectRatio
  | .describe data mimeType => .describe data mimeType
  | .podcast prompt => .text prompt

/-- What a request is made for, as its run names it in a failure. -/
def Request.purpose : Request → String
  | .image _ _ => "generate image"
  | .describe _ _ => "describe image"
  | .podcast _ => "generate podcast script"

/-- A run in flight. -/
structure Ticket where
  node : NodeId
  generation : String
  request : Request
deriving DecidableEq, Repr

/-- A graph, the recipes for it, and the runs that wait for completion. -/
structure Studio where
  settings : Settings := {}
  graph : Graph := {}
  registry : Registry := {}
  /-- The runs started without waiting, in the order of starting. -/
  pending : List Ticket := []

namespace Studio

/-- The first text that is given and not empty, or the empty text. -/
def firstGiven : List (Option String) → String
  | [] => ""
  | some s :: rest => if s = "" then firstGiven rest else s
  | none :: rest => firstGiven rest

/-- The custom text that a node is run with: the one of the run, else the node's own. -/
def customFor (node : Node) (custom : Option String) : String :=
  if node.kind = .promptMagic then
    firstGiven [custom, node.enhancedPrompt, node.customText, node.prompt]
  else firstGiven [custom, node.customText, node.prompt]

/-- The prompt of a node, and the registry afterwards: its compiled script, or what its recipe makes. -/
def buildPrompt (registry : Registry) (node : Node) (custom : Option String) :
    String × Registry :=
  if node.kind = .sourceImagescript then (Script.compile (node.script.getD ""), registry)
  else registry.resolve node.kind (node.basePrompt.getD "") (customFor node custom)

/-! ## Beginning a run -/

/-- The message for a blank prompt. -/
def blankPrompt : String := "Prompt cannot be empty. Please write a prompt or script."

/-- The message for a podcast without a scene. -/
def blankScene : String := "Cannot generate podcast without a base prompt from an image."

/-- The message for a description without a picture. -/
def noUpload : String := "No image has been uploaded to describe."

/-- What a run that has begun does next. -/
inductive Plan where
  /-- A request is made. -/
  | submit (request : Request)
  /-- The run is complete at once: videos are simulated. -/
  | finishVideo
  /-- There is nothing to submit. -/
  | refuse (message : String)
deriving DecidableEq, Repr

/-- The plan for a node, and the registry afterwards. -/
def plan (registry : Registry) (node : Node) (custom : Option String) : Plan × Registry :=
  match node.kind with
  | .veoVideo => (.finishVideo, registry)
  | .generatePodcast =>
      let base := node.basePrompt.getD ""
      if Text.blank base then (.refuse blankScene, registry)
      else (.submit (.podcast (Instruction.podcast base)), registry)
  | .sourceUpload =>
      match DataUrl.decodeRef? node.inputRef with
      | some (data, mimeType) => (.submit (.describe data mimeType), registry)
      | none => (.refuse noUpload, registry)
  | _ =>
      let (prompt, registry) := buildPrompt registry node custom
      if Text.blank prompt then (.refuse blankPrompt, registry)
      else (.submit (.image prompt node.aspectRatio), registry)

/-- The edits that the parameters of a run make to its node. -/
def parameterEdits (custom aspectRatio : Option String) : List Edit :=
  (match custom with
    | some text => [.customText (some text)]
    | none => []) ++
  (match aspectRatio with
    | some ratio => if ratio = "" then [] else [.aspectRatio ratio]
    | none => [])

/-- The graph in which a node is about to run: the node's descendants are removed, and the parameters of
    the run are written to the node. -/
def readied (graph : Graph) (id : NodeId) (custom aspectRatio : Option String) :
    Except Rejection Graph :=
  let pruned := (graph.invalidate id).2
  let edits := parameterEdits custom aspectRatio
  if edits.isEmpty then .ok pruned else pruned.edit id edits

/-- Carries out the plan of a run that has begun under a generation. A ticket comes with the studio if
    the plan is to submit a request. -/
def carryOut (studio : Studio) (id : NodeId) (generation : String) :
    Plan → Except Rejection (Option Ticket × Studio)
  | .submit request => .ok (some ⟨id, generation, request⟩, studio)
  | .finishVideo => do
      let graph ← studio.graph.edit id [.videoComplete true]
      let graph ← graph.setStatus id .ready none
      .ok (none, { studio with graph := graph })
  | .refuse message => do
      let graph ← studio.graph.setStatus id .failed (some ⟨.emptyPrompt, message⟩)
      .ok (none, { studio with graph := graph })

/-- Begins a run: readies the graph, sets the node running under a fresh generation, and carries out the
    plan. -/
def begin (studio : Studio) (id : NodeId) (custom aspectRatio : Option String) :
    Except Rejection (Option Ticket × Studio) :=
  match studio.graph.get? id with
  | none => .error (.notFound id)
  | some node =>
      if node.status = .running then .error (.busy id)
      else do
        let graph ← readied studio.graph id custom aspectRatio
        let graph ← graph.begin id
        match graph.get? id with
        | none => .error (.notFound id)
        | some node =>
            let (plan, registry) := plan studio.registry node custom
            { studio with graph := graph, registry := registry }.carryOut id
              (node.generation.getD "") plan

/-! ## Completing a run -/

/-- The node that a ticket's result still belongs to: it lives, runs, and runs under the ticket's
    generation. -/
def current? (studio : Studio) (ticket : Ticket) : Option Node :=
  (studio.graph.get? ticket.node).filter fun node =>
    node.generation == some ticket.generation && node.status == .running

/-- A reply with its trouble classified, which is done before anything else is looked at. -/
def received {α : Type} (room : Nat) (context : String) (reply : Except Trouble α) :
    Except Rejection (Except Failure α) :=
  match reply with
  | .ok result => .ok (.ok result)
  | .error trouble =>
      match trouble.classify room context with
      | .ok failure => .ok (.error failure)
      | .error container => .error (.overrun container)

/-- Completes a run with a reply. The result of a run that is no longer current is dropped: the studio
    stays as it is and no node comes with it. -/
def settle {α : Type} (studio : Studio) (ticket : Ticket) (reply : Except Failure α)
    (edits : Node → α → List Edit) : Except Rejection (Option Node × Studio) :=
  match studio.current? ticket with
  | none => .ok (none, studio)
  | some node => do
      let graph ←
        match reply with
        | .error failure => studio.graph.setStatus ticket.node .failed (some failure)
        | .ok result =>
            let graph ← studio.graph.edit ticket.node (edits node result)
            graph.setStatus ticket.node .ready none
      .ok (graph.get? ticket.node, { studio with graph := graph })

/-- What a picture made from a prompt writes to its node. -/
def pictureEdits (mimeType prompt : String) (node : Node) (data : Bytes) : List Edit :=
  [.outputRef (some (DataUrl.encode data mimeType)), .basePrompt (some prompt),
    .enhancedPrompt (if node.kind = .promptMagic then some prompt else none)]

/-- Completes a run with the reply that the service gives to its request. -/
def complete (studio : Studio) (service : Service) (ticket : Ticket) :
    Except Rejection (Option Node × Studio) :=
  match ticket.request with
  | .image prompt aspectRatio => do
      let reply ← received service.room ticket.request.purpose (service.image prompt aspectRatio)
      studio.settle ticket reply (pictureEdits studio.settings.imageMimeType prompt)
  | .describe data mimeType => do
      let reply ← received service.room ticket.request.purpose (service.describe data mimeType)
      studio.settle ticket reply fun node description =>
        [.basePrompt (some description), .outputRef node.inputRef]
  | .podcast prompt => do
      let reply ← received service.room ticket.request.purpose (service.text prompt)
      studio.settle ticket reply fun _ script => [.textOutput (some script)]

end Studio

end PromptCanvas
