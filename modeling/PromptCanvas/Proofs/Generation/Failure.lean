import PromptCanvas.Generation.Service

set_option autoImplicit false

/-! # Failures of the generation service

What a call to the service comes to is settled by what the client answers to the one model call that carries
it out: without a client the key is missing, a client's trouble is classified under the purpose of the call,
and a reply that cannot be used is a failure of its own. In all these cases the trouble of the service is a
failure already, so that classifying it again changes nothing. The one exception is a trouble that was not
classified, because there was no room for a container in its text: what is left of it is the trouble of the
reader, and that is classified by whoever waits for the service. -/

namespace PromptCanvas

open Generation

/-! ## Classification -/

/-- The error in which something ends, if it does. -/
def errorOf? {ε α : Type} : Except ε α → Option ε
  | .error e => some e
  | .ok _ => none

/-- What the trouble of a reply, if there is one, comes to for those who asked for a purpose: a failure, or a
    container for which there is no room. -/
def Trouble.verdict (room : Nat) (purpose : String) :
    Option Trouble → Except Json.Container (Option Failure)
  | none => .ok none
  | some trouble => (trouble.classify room purpose).map some

/-! ## Calls -/

/-- The trouble in which a model call that is to be made for a purpose ends, if it does. -/
def Generation.ending (client : Option Client) (call : Except Trouble ModelCall) (purpose : String)
    (flaw : ModelReply → Option Failure) : Option Trouble :=
  match client with
  | none => some (.known missingKey)
  | some client =>
      match call.bind client.answer with
      | .error trouble => some (trouble.reduced client.room purpose)
      | .ok reply => (flaw reply).map .known

namespace Call

/-- What a call is made for, as its failures name it. -/
def purpose : Call → String
  | image _ _ => "generate image"
  | describe _ _ => "describe image"
  | text _ => "generate text"
  | animation _ _ _ => "generate animation prompts"

/-- The model call that carries a call out, if it comes about. -/
def modelCall (settings : Settings) : Call → Except Trouble ModelCall
  | image prompt aspectRatio =>
      .ok (.images settings.imageModel prompt settings.imageMimeType aspectRatio)
  | describe data mimeType =>
      .ok (.content settings.textModel (.picture data mimeType Instruction.describe) none)
  | text prompt => .ok (.content settings.textModel (.words prompt) none)
  | animation basePrompt instruction frameCount =>
      animationCall settings basePrompt instruction (frameLimit settings frameCount)

/-- Why a reply cannot be used: it has no picture, or not the form of frames. Any reply is a text. -/
def flaw (reply : ModelReply) : Call → Option Failure
  | image _ _ => if reply.picture.isOk then none else some noPicture
  | animation _ _ _ => if reply.animation.isOk then none else some badFrames
  | _ => none

/-- The trouble in which a call ends, if it does: a missing key, a client's trouble reduced, or a reply's flaw. -/
def trouble? (settings : Settings) (client : Option Client) (call : Call) : Option Trouble :=
  ending client (call.modelCall settings) call.purpose fun reply => call.flaw reply

end Call

/-! ## The service -/

/-- The trouble in which a service's answer to a call ends, if it does. -/
def Service.trouble? (service : Service) : Call → Option Trouble
  | .image prompt aspectRatio => errorOf? (service.image prompt aspectRatio)
  | .describe data mimeType => errorOf? (service.describe data mimeType)
  | .text prompt => errorOf? (service.text prompt)
  | .animation basePrompt instruction frameCount =>
      errorOf? (service.animation basePrompt instruction frameCount)

namespace Generation

theorem errorOf?_picture (reply : ModelReply) :
    errorOf? reply.picture = if reply.picture.isOk then none else some noPicture := by
  unfold ModelReply.picture
  split <;> rfl

theorem errorOf?_animation (reply : ModelReply) :
    errorOf? reply.animation = if reply.animation.isOk then none else some badFrames := by
  unfold ModelReply.animation
  split <;> rfl

/-- A method of the service ends in the trouble to which a client's trouble is reduced, or in the flaw that is
    found in the reply. -/
theorem errorOf?_asked {α : Type} (client : Option Client) (call : Except Trouble ModelCall)
    (context : String) (result : ModelReply → Except Failure α) {flaw : ModelReply → Option Failure}
    (hflaw : ∀ reply, errorOf? (result reply) = flaw reply) :
    errorOf? ((ask client call context).andThen result).result = ending client call context flaw := by
  cases client with
  | none => rfl
  | some client =>
      cases call with
      | error trouble => rfl
      | ok call =>
          simp only [ask, ending, Except.bind]
          cases client.answer call with
          | error trouble => rfl
          | ok reply =>
              simp only [Asked.andThen, Except.bind, ← hflaw]
              cases result reply <;> rfl

end Generation

theorem Service.trouble?_ofClient (settings : Settings) (client : Option Client) (room : Nat) (call : Call) :
    (Service.ofClient settings client room).trouble? call = call.trouble? settings client := by
  cases call with
  | image => exact errorOf?_asked client _ "generate image" ModelReply.picture errorOf?_picture
  | describe => exact errorOf?_asked client _ "describe image" (fun reply => .ok reply.words) fun _ => rfl
  | text => exact errorOf?_asked client _ "generate text" (fun reply => .ok reply.words) fun _ => rfl
  | animation =>
      exact errorOf?_asked client _ "generate animation prompts" ModelReply.animation errorOf?_animation

end PromptCanvas
