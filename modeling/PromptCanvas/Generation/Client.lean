import PromptCanvas.Codec.Hex
import PromptCanvas.Generation.Instruction
import PromptCanvas.Generation.Trouble
import PromptCanvas.Settings
import PromptCanvas.Text.Blank

set_option autoImplicit false

/-! # The model client

The generation service asks image and text models through a client. Every method makes at most one call;
without a client, which is the case where no API key is set, it makes none. What the client gets into is
classified, so that a method ends in a value or in a failure, or else in the trouble that the classification
itself gets into. `Generation.Asked` is a method's result together with the calls that it made. -/

namespace PromptCanvas.Generation

/-- What a text model is asked: words, or a picture and words. -/
inductive Contents where
  | words (prompt : String)
  | picture (data : Bytes) (mimeType prompt : String)
deriving DecidableEq, Repr

/-- A call to a model. Image models are asked for one picture. -/
inductive ModelCall where
  | images (model prompt mimeType aspectRatio : String)
  | content (model : String) (contents : Contents) (replyType : Option String)
deriving DecidableEq, Repr

/-- What a model answers. -/
structure ModelReply where
  /-- The pictures, each with its bytes if it has any. -/
  pictures : List (Option Bytes) := []
  text : Option String := none
  /-- The frames of a reply in the form that was asked for. -/
  frames : Option (List String) := none
deriving Repr

/-- A client answers calls, or gets into trouble. -/
structure Client where
  answer : ModelCall → Except Trouble ModelReply
  /-- The room on the stack where its troubles are classified. -/
  room : Nat := Json.stackRoom

/-- The result of a method and the calls that it made. -/
structure Asked (α : Type) where
  result : Except Trouble α
  calls : List ModelCall

/-- A result after a further step, which makes no call. -/
def Asked.andThen {α β : Type} (asked : Asked α) (f : α → Except Failure β) : Asked β :=
  { result := asked.result.bind fun a => (f a).mapError .known, calls := asked.calls }

/-- The failure without a client. -/
def missingKey : Failure := ⟨.serviceError, "GOOGLE_API_KEY is not set."⟩

/-- The failure of an image model that answers without a picture. -/
def noPicture : Failure := ⟨.serviceError, "No image was generated."⟩

/-- The failure of a text model that does not answer in the form of frames. -/
def badFrames : Failure :=
  ⟨.serviceError, "Invalid response format from AI. Expected a 'prompts' array."⟩

/-- The answer to a call made to do what `context` names. The call may not come about. -/
def ask (client : Option Client) (call : Except Trouble ModelCall) (context : String) : Asked ModelReply :=
  match client with
  | none => ⟨.error (.known missingKey), []⟩
  | some client =>
      match call with
      | .error trouble => ⟨.error (trouble.reduced client.room context), []⟩
      | .ok call =>
          match client.answer call with
          | .ok reply => ⟨.ok reply, [call]⟩
          | .error trouble => ⟨.error (trouble.reduced client.room context), [call]⟩

/-- The first picture of a reply, if it has bytes. -/
def ModelReply.picture (reply : ModelReply) : Except Failure Bytes :=
  match reply.pictures.head? with
  | some (some (byte :: data)) => .ok (byte :: data)
  | _ => .error noPicture

/-- The text of a reply, without white space around it. -/
def ModelReply.words (reply : ModelReply) : String := Text.trimmed (reply.text.getD "")

/-- The texts of a JSON list. -/
def textsOf? : List Json → Option (List String)
  | [] => some []
  | .str s :: rest => (textsOf? rest).map (s :: ·)
  | _ :: _ => none

/-- The frames that a text gives: an object with a list of texts under `prompts`, or without it. -/
def framesIn? (text : String) : Option (List String) := do
  let document ← Json.read? .reply text.toList
  match document with
  | .obj fields =>
      match Table.get? fields "prompts" with
      | none => some []
      | some (.arr items) => textsOf? items
      | some _ => none
  | _ => none

/-- The frames of a reply. -/
def ModelReply.animation (reply : ModelReply) : Except Failure (List String) :=
  match reply.frames.or (framesIn? (reply.text.getD "")) with
  | some frames => .ok frames
  | none => .error badFrames

/-! ## Methods -/

/-- Makes a picture. -/
def generateImage (settings : Settings) (client : Option Client) (prompt aspectRatio : String) :
    Asked Bytes :=
  (ask client (.ok (.images settings.imageModel prompt settings.imageMimeType aspectRatio))
    "generate image").andThen ModelReply.picture

/-- Describes a picture. -/
def describeImage (settings : Settings) (client : Option Client) (data : Bytes)
    (mimeType : String) : Asked String :=
  (ask client (.ok (.content settings.textModel (.picture data mimeType Instruction.describe) none))
    "describe image").andThen fun reply => .ok reply.words

/-- Answers a prompt in words. -/
def generateText (settings : Settings) (client : Option Client) (prompt : String) :
    Asked String :=
  (ask client (.ok (.content settings.textModel (.words prompt) none))
    "generate text").andThen fun reply => .ok reply.words

/-- The number of frames asked for: at least one and at most as many as the settings allow. -/
def frameLimit (settings : Settings) (frameCount : Int) : Int :=
  max 1 (min frameCount settings.animationMaxFrames)

/-- The call for the prompts of a number of frames. The number is written in the instruction. -/
def animationCall (settings : Settings) (basePrompt instruction : String) (frames : Int) :
    Except Trouble ModelCall :=
  if Text.hasNumeral frames then
    .ok
      (.content settings.textModel (.words (Instruction.animation frames basePrompt instruction))
        (some "application/json"))
  else .error .tooManyDigits

/-- Makes the prompts of the frames of an animation. -/
def generateAnimation (settings : Settings) (client : Option Client)
    (basePrompt instruction : String) (frameCount : Int) : Asked (List String) :=
  (ask client (animationCall settings basePrompt instruction (frameLimit settings frameCount))
    "generate animation prompts").andThen ModelReply.animation

end PromptCanvas.Generation
