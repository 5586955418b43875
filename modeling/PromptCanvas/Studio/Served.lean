import PromptCanvas.Studio.Basic

set_option autoImplicit false

/-! # Operations that wait for the service

An operation either answers at once or makes exactly one call to the service and waits for the reply.
While it waits, anything may happen to the studio; when the reply is there, the operation resumes in the
studio as it is then. What remains to be done is an `Errand`, and `Studio.resume` does it. `Served` keeps
an answer apart from an errand, so that what happens in between is up to the one who carries the call
out. -/

namespace PromptCanvas

/-! ## Errands -/

/-- Work that waits for a reply of the service. -/
inductive Errand where
  /-- A run that has begun. -/
  | run (ticket : Ticket)
  /-- A creative boost of a node, given as it was when the boost was asked for. -/
  | boost (before : Node)
  /-- The prompts of the frames of an animation. -/
  | animation (basePrompt instruction : String) (frameCount : Int)

namespace Errand

/-- What an errand brings. -/
abbrev Result : Errand → Type
  | run _ => Option Node
  | boost _ => Node
  | animation _ _ _ => List String

/-- The run that an errand completes, if it is one. -/
def ticket? : Errand → Option Ticket
  | run ticket => some ticket
  | _ => none

/-- The node that the result of an errand is for. -/
def target? : Errand → Option NodeId
  | run ticket => some ticket.node
  | boost before => some before.id
  | animation _ _ _ => none

/-- What an errand is done for, as it names it in a failure. -/
def purpose : Errand → String
  | run ticket => ticket.request.purpose
  | boost _ => "enhance prompt"
  | animation _ _ _ => "generate animation prompts"

/-- The base prompt that a boost starts from. -/
def boostBase (node : Node) : String := Text.trimmed (node.basePrompt.getD "")

/-- The prompt of a boost. -/
def boostPrompt (node : Node) : String := Instruction.enhance (boostBase node)

/-- The call that an errand makes. -/
def call : Errand → Call
  | run ticket => ticket.request.call
  | boost before => .text (boostPrompt before)
  | animation basePrompt instruction frameCount => .animation basePrompt instruction frameCount

end Errand

/-- An operation's answer, or the errand that it waits for and the answer that the errand's result
    gives. -/
inductive Served (α : Type) where
  | done (studio : Studio) (answer : α)
  | waiting (studio : Studio) (errand : Errand) (answer : Except Rejection errand.Result → α)

namespace Served

/-- The operation with its answer through a function. -/
def map {α β : Type} (f : α → β) : Served α → Served β
  | done studio answer => done studio (f answer)
  | waiting studio errand answer => waiting studio errand fun result => f (answer result)

/-- What an operation leaves behind: the studio, and the errand if one is out. -/
def left {α : Type} : Served α → Studio × Option Errand
  | done studio _ => (studio, none)
  | waiting studio errand _ => (studio, some errand)

end Served

namespace Studio

/-- The outcome of an operation: an answer with a changed studio, or a refusal without a change. -/
def outcome {α : Type} (studio : Studio) (result : Except Rejection (α × Studio)) :
    Except Rejection α × Studio :=
  match result with
  | .ok (answer, changed) => (.ok answer, changed)
  | .error r => (.error r, studio)

/-! ## Operations -/

/-- Makes the request of a run and completes the run with the reply. -/
def submit (studio : Studio) (ticket : Ticket) : Served (Except Rejection (Option Node)) :=
  .waiting studio (.run ticket) fun result => result

/-- Runs a node and waits for the result: the node as the run leaves it, or nothing if the result was
    dropped. -/
def run (studio : Studio) (id : NodeId) (custom aspectRatio : Option String) :
    Served (Except Rejection (Option Node)) :=
  match studio.begin id custom aspectRatio with
  | .error r => .done studio (.error r)
  | .ok (none, studio) => .done studio (.ok (studio.graph.get? id))
  | .ok (some ticket, studio) => studio.submit ticket

/-- Begins a run and leaves its completion for later. The answer is whether a request was made. -/
def start (studio : Studio) (id : NodeId) (custom aspectRatio : Option String) :
    Except Rejection (Bool × Studio) :=
  match studio.begin id custom aspectRatio with
  | .error r => .error r
  | .ok (none, studio) => .ok (false, studio)
  | .ok (some ticket, studio) =>
      .ok (true, { studio with pending := studio.pending ++ [ticket] })

/-- Takes up the run that was started first, if one is pending. -/
def takeUp? (studio : Studio) : Option (Served (Except Rejection (Option Node))) :=
  match studio.pending with
  | [] => none
  | ticket :: rest =>
      some (submit { studio with pending := rest } ticket)

/-- Attaches a picture to an upload node that is not running. -/
def attach (studio : Studio) (id : NodeId) (data : Bytes) (mimeType : String) :
    Except Rejection Studio :=
  match studio.graph.get? id with
  | none => .error (.notFound id)
  | some node =>
      if node.kind ≠ .sourceUpload then .error (.notUpload id node.kind)
      else if node.status = .running then .error (.busy id)
      else
        (studio.graph.edit id
            [.inputRef (some (DataUrl.encode data mimeType)), .inputMimeType (some mimeType)]).map
          fun graph => { studio with graph := graph }

/-- Attaches a picture to an upload node and runs the node, which describes the picture. -/
def upload (studio : Studio) (id : NodeId) (data : Bytes) (mimeType : String) :
    Served (Except Rejection (Option Node)) :=
  match studio.attach id data mimeType with
  | .error r => .done studio (.error r)
  | .ok studio => studio.run id none none

/-- The message for a boost without a base prompt. -/
def nothingToBoost : String := "There is no base prompt to boost."

/-- Expands a node's base prompt into its enhanced prompt. The node's execution is not touched. -/
def enhance (studio : Studio) (id : NodeId) : Served (Except Rejection Node) :=
  match studio.graph.get? id with
  | none => .done studio (.error (.notFound id))
  | some node =>
      if node.status = .running then .done studio (.error (.busy id))
      else if Errand.boostBase node = "" then
        .done studio (.error (.failed ⟨.emptyPrompt, nothingToBoost⟩))
      else .waiting studio (.boost node) fun result => result

/-- Makes the prompts of the frames of an animation. -/
def animation (studio : Studio) (basePrompt instruction : String) (frameCount : Int) :
    Served (Except Rejection (List String)) :=
  if Text.blank basePrompt then
    .done studio (.error (.failed ⟨.emptyPrompt, blankPrompt⟩))
  else .waiting studio (.animation basePrompt instruction frameCount) fun result => result

/-- The prompt that a node would be run with. -/
def promptOf (studio : Studio) (id : NodeId) (custom : Option String) :
    Except Rejection (String × Studio) :=
  match studio.graph.get? id with
  | none => .error (.notFound id)
  | some node =>
      let (prompt, registry) := buildPrompt studio.registry node custom
      .ok (prompt, { studio with registry := registry })

/-! ## Resuming -/

/-- A node as it was seen last before it was missing for the first time. A node that is found later under
    its id is another one. -/
def lastSeen (node : Node) : List Graph → Node
  | [] => node
  | graph :: rest =>
      match graph.get? node.id with
      | some later => lastSeen later rest
      | none => node

/-- Completes a creative boost: the reply becomes the enhanced prompt of the node, if it still lives;
    else nothing changes and the answer is the node as it was seen last. -/
def boosted (studio : Studio) (before : Node) (seen : List Graph)
    (reply : Except Rejection (Except Failure String)) : Except Rejection Node × Studio :=
  match reply with
  | .error r => (.error r, studio)
  | .ok (.error failure) => (.error (.failed failure), studio)
  | .ok (.ok text) =>
      if studio.graph.has before.id then
        studio.outcome do
          let graph ← studio.graph.edit before.id [.enhancedPrompt (some (Text.trimmed text))]
          match graph.get? before.id with
          | some node => .ok (node, { studio with graph := graph })
          | none => .error (.notFound before.id)
      else (.ok (lastSeen before seen), studio)

/-- The frames of an animation, or the failure that the service met. -/
def animated (reply : Except Rejection (Except Failure (List String))) : Except Rejection (List String) :=
  reply.bind (·.mapError .failed)

/-- Does an errand with the replies of a service, in the studio as it is then. `seen` are the graphs that
    were seen while the errand was out, in order. -/
def resume (studio : Studio) (service : Service) (seen : List Graph) :
    (errand : Errand) → Except Rejection errand.Result × Studio
  | .run ticket => studio.outcome (studio.complete service ticket)
  | .boost before =>
      studio.boosted before seen
        (received service.room (Errand.boost before).purpose (service.text (Errand.boostPrompt before)))
  | .animation basePrompt instruction frameCount =>
      (animated
        (received service.room (Errand.animation basePrompt instruction frameCount).purpose
          (service.animation basePrompt instruction frameCount)), studio)

end Studio

end PromptCanvas
