import PromptCanvas.Studio.Served
import PromptCanvas.Validation.Sendable

set_option autoImplicit false

/-! # Operations on a studio

All that can be asked of a studio, as data. `Studio.perform` says what an operation leaves behind: the
studio as it is when the operation returns or starts to wait, and the errand it waits for. Whether it
succeeds or is refused makes no difference here; the answers are those of the functions performed. -/

namespace PromptCanvas

/-- What can be asked of a studio. -/
inductive Operation where
  | add (kind : Json) (parent : Option NodeId) (fields : Json.Fields)
  | update (id : NodeId) (updates : Json.Fields)
  | begin (id : NodeId)
  | setStatus (id : NodeId) (status : Json) (failure : Option Failure)
  | delete (id : NodeId)
  | invalidate (id : NodeId)
  | run (id : NodeId) (custom aspectRatio : Option String)
  | start (id : NodeId) (custom aspectRatio : Option String)
  | upload (id : NodeId) (data : Bytes) (mimeType : String)
  | enhance (id : NodeId)
  | animation (basePrompt instruction : String) (frameCount : Int)
  | preview (id : NodeId) (custom : Option String)

namespace Operation

/-- The node that an operation is addressed to. -/
def target? : Operation → Option NodeId
  | add _ _ _ => none
  | update id _ => some id
  | begin id => some id
  | setStatus id _ _ => some id
  | delete id => some id
  | invalidate id => some id
  | run id _ _ => some id
  | start id _ _ => some id
  | upload id _ _ => some id
  | enhance id => some id
  | animation _ _ _ => none
  | preview id _ => some id

/-- Whether an operation moves a node through its execution by hand, past the runs of the studio. -/
def isManual : Operation → Bool
  | begin _ => true
  | setStatus _ _ _ => true
  | _ => false

/-- Whether fields or updates name an artifact: the input or the output of a node. -/
def namesArtifact (fields : Json.Fields) : Bool := fields.has "input_ref" || fields.has "output_ref"

/-- Whether an operation writes an artifact that its caller gives. -/
def givesArtifact : Operation → Bool
  | add _ _ fields => namesArtifact fields
  | update _ updates => namesArtifact updates
  | _ => false

/-- The names of the fields that runs start from and write their results to. -/
def resultNames : List String :=
  ["input_ref", "output_ref", "base_prompt", "text_output", "video_complete"]

/-- Whether an operation updates what runs start from or have written. -/
def givesResult : Operation → Bool
  | update _ updates => resultNames.any fun (name : String) => updates.has name
  | _ => false

/-- Whether the caller of an operation gives only what can be sent back. -/
def isSendable : Operation → Bool
  | add _ _ fields => Json.givesSendable fields
  | update _ updates => Json.givesSendable updates
  | _ => true

/-- Whether an operation gives a node a new input while it may be running. -/
def renewsInput (id : NodeId) : Operation → Bool
  | update target updates => target == id && updates.has "input_ref"
  | _ => false

end Operation

namespace Studio

/-- The studio with the graph that a change came to; as it was, if the change was refused. -/
def accept (studio : Studio) (result : Except Rejection Graph) : Studio :=
  match result with
  | .ok graph => { studio with graph := graph }
  | .error _ => studio

/-- What an operation leaves behind: the studio, and the errand that it waits for. -/
def perform (studio : Studio) : Operation → Studio × Option Errand
  | .add kind parent fields =>
      let graph := (studio.graph.add studio.settings.defaultAspectRatio kind parent fields).2
      ({ studio with graph := graph }, none)
  | .update id updates => (studio.accept (studio.graph.update id updates), none)
  | .begin id => (studio.accept (studio.graph.begin id), none)
  | .setStatus id status failure =>
      (studio.accept (studio.graph.setStatusNamed id status failure), none)
  | .delete id => ({ studio with graph := (studio.graph.delete id).2 }, none)
  | .invalidate id => ({ studio with graph := (studio.graph.invalidate id).2 }, none)
  | .run id custom aspectRatio => (studio.run id custom aspectRatio).left
  | .start id custom aspectRatio =>
      match studio.start id custom aspectRatio with
      | .ok (_, started) => (started, none)
      | .error _ => (studio, none)
  | .upload id data mimeType => (studio.upload id data mimeType).left
  | .enhance id => (studio.enhance id).left
  | .animation basePrompt instruction frameCount =>
      (studio.animation basePrompt instruction frameCount).left
  | .preview id custom =>
      match studio.promptOf id custom with
      | .ok (_, asked) => (asked, none)
      | .error _ => (studio, none)

/-! ## What an operation brings about -/

/-- The id of the node that an operation adds. -/
def creates (studio : Studio) : Operation → Option NodeId
  | .add kind parent fields =>
      match (studio.graph.add studio.settings.defaultAspectRatio kind parent fields).1 with
      | .ok node => some node.id
      | .error _ => none
  | _ => none

/-- The run that `begin` begins: its node, and its ticket if a request is made. -/
def opens (studio : Studio) (id : NodeId) (custom aspectRatio : Option String) :
    Option (NodeId × Option Ticket) :=
  match studio.begin id custom aspectRatio with
  | .ok (ticket, _) => some (id, ticket)
  | .error _ => none

/-- The run that an operation begins: its node, and its ticket if a request is made. -/
def beginning (studio : Studio) : Operation → Option (NodeId × Option Ticket)
  | .begin id =>
      match studio.graph.begin id with
      | .ok _ => some (id, none)
      | .error _ => none
  | .run id custom aspectRatio => studio.opens id custom aspectRatio
  | .start id custom aspectRatio => studio.opens id custom aspectRatio
  | .upload id data mimeType =>
      match studio.attach id data mimeType with
      | .ok attached => attached.opens id none none
      | .error _ => none
  | _ => none

end Studio

end PromptCanvas
