import PromptCanvas.Json.Display
import PromptCanvas.Json.Reader
import PromptCanvas.Node.Status

set_option autoImplicit false

/-! # Troubles of the generation service

A request to the service may end in trouble: a failure the service has found itself, an error answer of
the model's interface, or anything else that has a text. `Trouble.classify` makes a failure of it, with
a coarse kind and a message fit to show on the node. A failure stays as it is.

A message may stand in a document in the text of a trouble. The reader of documents needs room on the stack for
the containers in it; where there is none left for one of them, the trouble is not classified, and what comes
instead is that the reader has gone too deep.

Error answers are those of google-genai from version 1.0 on: what an answer does not tell at its top stands in its
`error`, a list of one answer is that answer, and the text of an error is its code, its status and its details. -/

namespace PromptCanvas

/-- An error answer of the model's interface. -/
structure ApiError where
  code : Json
  status : Json
  message : Json
  details : Json

namespace ApiError

/-- The part of an error answer that counts: the only item of a list of one. -/
def core : Json → Json
  | .arr [item] => item
  | details => details

/-- Where an error answer keeps what it does not tell at its top: the fields of its `error`, none of them
    if there is no `error`. If the answer or its `error` is no object, that value is in the way. -/
def inner (details : Json) : Except Json Json.Fields :=
  match details with
  | .obj _ =>
      match (details.field? "error").getD (.obj []) with
      | .obj fields => .ok fields
      | other => .error other
  | other => .error other

/-- A field of an error answer: at the top if it stands there, else inside. -/
def lookUp (name : String) (details : Json) : Except Json Json :=
  (inner details).map fun (fields : Json.Fields) =>
    ((details.field? name).or (fields.get? name)).getD .null

/-- A field of an error answer; null where something is in the way. -/
def found (name : String) (details : Json) : Json := (lookUp name details).toOption.getD .null

/-- The error in words. -/
def text (error : ApiError) : Writing :=
  error.code.writing ++ " " ++ error.status.writing ++ ". " ++ error.details.writing

end ApiError

/-- Why a request to the service produced nothing. -/
inductive Trouble where
  /-- The service has already found the failure. -/
  | known (failure : Failure)
  /-- The model's interface answered with an error. -/
  | api (error : ApiError)
  /-- An error answer gave no code, and a value that is no object was where one is looked for. -/
  | codeless (found : Json)
  /-- Anything else. Its text may be torn. -/
  | other (text : Writing)

namespace Trouble

open Text

/-- The trouble that an answer with a code and details is; a code of zero is looked up in the details. -/
def ofAnswer (code details : Json) : Trouble :=
  let details := ApiError.core details
  let withCode (code : Json) : Trouble :=
    .api ⟨code, ApiError.found "status" details, ApiError.found "message" details, details⟩
  if code.isSomething then withCode code
  else
    match ApiError.lookUp "code" details with
    | .ok code => withCode code
    | .error value => .codeless value

/-- The trouble in words. -/
def text : Trouble → Writing
  | .known failure => failure.message
  | .api error => error.text
  | .codeless value => "'" ++ value.typeName ++ "' object has no attribute 'get'"
  | .other text => text

/-- The trouble of a reader that has no room for a container. -/
def overrun : Json.Container → Trouble
  | .list => .other "maximum recursion depth exceeded while decoding a JSON array from a unicode string"
  | .object => .other "maximum recursion depth exceeded while decoding a JSON object from a unicode string"

/-- The trouble of making a numeral with too many digits. -/
def tooManyDigits : Trouble :=
  .other
    ("Exceeds the limit (4300 digits) for integer string conversion; " ++
      "use sys.set_int_max_str_digits() to increase the limit")

/-- The code of a used-up quota. -/
def quotaCode : String := "429"

/-- The status of a used-up quota. -/
def quotaStatus : String := "RESOURCE_EXHAUSTED"

/-- The failure of a used-up quota. -/
def quotaFailure : Failure :=
  { kind := .quotaExceeded
    message :=
      "API Quota Exceeded. You've made too many requests. Please check your plan and " ++
      "billing details, or try again later." }

/-- The failure that the model's interface reports with a message. -/
def reported (message : Json) : Failure :=
  { kind := .serviceError, message := "API Error: " ++ message.writing }

/-- What a trouble comes to that shows neither a used-up quota nor a message. -/
def unclear (text : Writing) (context : String) : Failure :=
  if text = .whole "" then ⟨.unknown, "An API error occurred while trying to " ++ context ++ "."⟩
  else ⟨.unknown, "An error occurred while trying to " ++ context ++ ": " ++ text⟩

/-- Whether a code is the number 429. -/
def isQuotaCode : Json → Bool
  | .int n => n == 429
  | .float x => x.toInt? == some 429
  | _ => false

/-- Whether a status is that of a used-up quota. -/
def isQuotaStatus : Json → Bool
  | .str s => s == quotaStatus
  | _ => false

/-- The failure that an error answer shows by itself. -/
def ofApi (error : ApiError) : Option Failure :=
  if isQuotaCode error.code || isQuotaStatus error.status then some quotaFailure
  else if error.message.isSomething then some (reported error.message)
  else none

/-- The message under the `error` of a document. -/
def messageOf? (document : Json) : Option Json := do
  let error ← document.field? "error"
  let message ← error.field? "message"
  if message.isSomething then some message else none

/-- A text from its first brace on. -/
def fromBrace (text : List Symbol) : List Symbol := text.dropWhile (· ≠ .char '{')

/-- The message of the JSON document that makes up a text from its first brace on, unless there is no room for a
    container in it. -/
def embeddedMessage? (room : Nat) (text : List Symbol) : Except Json.Container (Option Json) :=
  match Json.read (.document room) (fromBrace text) with
  | .ok document => .ok (messageOf? document)
  | .error (.tooDeep container) => .error container
  | .error _ => .ok none

/-- The failure that a text shows. -/
def ofText (room : Nat) (text : Writing) (context : String) : Except Json.Container Failure :=
  if occurs (symbols quotaStatus.toList) text.symbols || occurs (symbols quotaCode.toList) text.symbols then
    .ok quotaFailure
  else
    (embeddedMessage? room text.symbols).map fun message =>
      (message.map reported).getD (unclear text context)

/-- The failure that a trouble is, met while trying to do what `context` names, or the container for which a
    reader with some room on the stack has none left. -/
def classify (room : Nat) (trouble : Trouble) (context : String) : Except Json.Container Failure :=
  match trouble with
  | .known failure => .ok failure
  | .api error =>
      match ofApi error with
      | some failure => .ok failure
      | none => ofText room error.text context
  | trouble => ofText room trouble.text context

/-- What a trouble is reduced to: the failure that it is, or the trouble of the reader without room. -/
def reduced (room : Nat) (trouble : Trouble) (context : String) : Trouble :=
  match trouble.classify room context with
  | .ok failure => .known failure
  | .error container => overrun container

/-- Whether a trouble is a failure already. -/
def isFailure : Trouble → Bool
  | .known _ => true
  | _ => false

end Trouble

end PromptCanvas
