import PromptCanvas.Codec.Base64
import PromptCanvas.Codec.Encoding
import PromptCanvas.Json.Measure
import PromptCanvas.Json.Reader
import PromptCanvas.Node.Basic
import PromptCanvas.Validation.Sendable

set_option autoImplicit false

/-! # Bodies of requests

The body of a request is JSON. A form reads the fields it knows, in its own order, and collects the
faults of all of them; fields that it does not know are passed over. A body whose bytes encode no text, or
that passes a limit of the reader, is not read at all.

These are the rules that FastAPI documents from version 0.110 on for a body that is a model: a body that is no JSON
has the fault `json_invalid`, one that cannot be read for another reason is answered with 400, and the faults of
its fields stand under `body`. -/

namespace PromptCanvas.Http

open Value

/-- The body of a request: none, a JSON value, or a text that may be one. -/
inductive Body where
  | absent
  | json (value : Json)
  | raw (text : String)

/-- Why a body is refused. -/
inductive BodyRefusal where
  /-- Values in it do not fit, or it is no JSON. -/
  | faulty (faults : List Fault)
  /-- It could not be read. -/
  | unreadable

/-- What was checked, or the refusal for its faults. -/
def accepted {α : Type} : Checked α → Except BodyRefusal α
  | .ok a => .ok a
  | .faulty faults => .error (.faulty faults)

/-- What was checked in a body, or the refusal for its faults, placed under the body. -/
def inBody {α : Type} (checked : Checked α) : Except BodyRefusal α :=
  accepted (checked.under "body")

/-- The JSON value of a body. -/
def Body.value : Body → Except BodyRefusal Json
  | .absent => inBody (.fault .missing .null)
  | .json value =>
      if Json.stackRoom + 1 < value.height then .error .unreadable else .ok value
  | .raw text =>
      if text = "" then inBody (.fault .missing .null)
      else
        let data : Bytes := text.toUTF8.toList
        match (Encoding.detect data).decode? data with
        | none => .error .unreadable
        | some symbols =>
            match Json.read (.document Json.stackRoom) symbols with
            | .ok value => .ok value
            | .error .malformed => inBody (.fault .bodyUnreadable .null)
            | .error _ => .error .unreadable

/-- A form read from a body that is an object. -/
def Body.form {α : Type} (body : Body) (read : Json.Fields → Checked α) : Except BodyRefusal α :=
  body.value.bind fun value =>
    match value with
    | .obj fields => inBody (read fields)
    | _ => inBody (.fault .formExpected value)

/-- The fields of a body that is any object. -/
def Body.fields (body : Body) : Except BodyRefusal Json.Fields :=
  body.value.bind fun value => inBody (Value.object value)

/-- Whether a body gives only what can be sent back, as far as it can be read. -/
def Body.isSendable (body : Body) : Bool :=
  match body.value with
  | .ok (.obj fields) => Json.givesSendable fields
  | .ok value => value.isSendable
  | .error _ => true

/-! ## Forms -/

/-- A request to add a node. -/
structure AddForm where
  kind : NodeKind
  parent : Option String
  basePrompt : Option String
  prompt : Option String
  script : Option String
  customText : Option String
  aspectRatio : Option String
  position : Option (Table Writing Binary64)

/-- Reads a request to add a node. -/
def AddForm.read (fields : Json.Fields) : Checked AddForm :=
  ((((((((Checked.ok AddForm.mk).app
    (required fields "kind" (Value.choice NodeKind.ofSlug?))).app
    (optional fields "parent_id" none Value.text?)).app
    (optional fields "base_prompt" none Value.text?)).app
    (optional fields "prompt" none Value.text?)).app
    (optional fields "script" none Value.text?)).app
    (optional fields "custom_text" none Value.text?)).app
    (optional fields "aspect_ratio" none Value.text?)).app
    (optional fields "position" none Value.reals?)

/-- A field with its value, if it is given. -/
def givenField (name : String) (value : Option Json) : Json.Fields :=
  match value with
  | some value => [(name, value)]
  | none => []

/-- The fields that a request gives to a new node. -/
def AddForm.fields (form : AddForm) : Json.Fields :=
  givenField "base_prompt" (form.basePrompt.map .str) ++
    givenField "prompt" (form.prompt.map .str) ++
    givenField "script" (form.script.map .str) ++
    givenField "custom_text" (form.customText.map .str) ++
    givenField "aspect_ratio" (form.aspectRatio.map .str) ++
    givenField "position"
      (form.position.map fun entries => .obj (entries.map fun (name, x) => (name, .float x)))

/-- A request to run a node. -/
structure RunForm where
  customText : Option String
  aspectRatio : Option String
  /-- Whether the answer waits for the result. -/
  wait : Bool

/-- Reads a request to run a node. -/
def RunForm.read (fields : Json.Fields) : Checked RunForm :=
  (((Checked.ok RunForm.mk).app
    (optional fields "custom_text" none Value.text?)).app
    (optional fields "aspect_ratio" none Value.text?)).app
    (optional fields "wait" true Value.truth)

/-- A request with a picture. -/
structure UploadForm where
  picture : String
  mimeType : String

/-- Reads a request with a picture. -/
def UploadForm.read (fields : Json.Fields) : Checked UploadForm :=
  ((Checked.ok UploadForm.mk).app
    (required fields "image_base64" Value.text)).app
    (optional fields "mime_type" "image/png" Value.text)

/-- Reads a request with a script. -/
def readScript (fields : Json.Fields) : Checked String := optional fields "script" "" Value.text

/-- A request for an animation. -/
structure AnimationForm where
  basePrompt : String
  instruction : String
  frameCount : Int

/-- Reads a request for an animation. -/
def AnimationForm.read (fields : Json.Fields) : Checked AnimationForm :=
  (((Checked.ok AnimationForm.mk).app
    (required fields "base_prompt" Value.text)).app
    (required fields "instruction" Value.text)).app
    (optional fields "frame_count" 8 (Value.integerFrom 1))

end PromptCanvas.Http
