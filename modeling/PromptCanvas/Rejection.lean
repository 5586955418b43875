import PromptCanvas.Generation.Trouble
import PromptCanvas.Json.Display
import PromptCanvas.Json.Measure
import PromptCanvas.Node.Basic

set_option autoImplicit false

/-! # Rejections

Why an operation on a graph, a run or a request was refused, or why it has no answer. `Rejection.message` words
each cause. -/

namespace PromptCanvas

/-- Why an operation was refused. -/
inductive Rejection where
  /-- No live node has the id. -/
  | notFound (id : NodeId)
  /-- The node is being run. -/
  | busy (id : NodeId)
  /-- The status may not follow the node's status. -/
  | badTransition (id : NodeId) (current requested : Status)
  /-- No kind of node has this slug. -/
  | unknownKind (given : Json)
  /-- No status has this name. -/
  | unknownStatus (given : Json)
  /-- No kind of failure has this slug. -/
  | unknownFailure (given : Json)
  /-- A new node cannot be given these fields. -/
  | reservedFields (names : List String)
  /-- These fields never change. -/
  | immutableFields (names : List String)
  /-- These fields belong to the execution of nodes. -/
  | executionFields (names : List String)
  /-- A node has no such fields. -/
  | unknownFields (names : List Writing)
  /-- The values do not fit their fields. -/
  | faulty (faults : List Fault)
  /-- The node takes no upload. -/
  | notUpload (id : NodeId) (kind : NodeKind)
  /-- The service produced nothing. -/
  | failed (failure : Failure)
  /-- No draw gave an id that was never used. -/
  | noFreshId
  /-- A node's metadata is nested too deep for an answer. -/
  | tooDeep
  /-- An answer would hold what cannot be written. -/
  | unwritable (flaw : Json.Flaw)
  /-- A document in the text of a trouble has a container for which its reader had no room. -/
  | overrun (container : Json.Container)

/-- The causes of refusals. A route looks for some of them, and none for an overrun. -/
inductive RefusalCause where
  | unknownNode
  | busyNode
  | badValue
  | failure
  | overrun
deriving DecidableEq, Repr

namespace Rejection

open Text

/-- The cause of a refusal. -/
def cause : Rejection → RefusalCause
  | notFound _ => .unknownNode
  | busy _ => .busyNode
  | failed _ => .failure
  | overrun _ => .overrun
  | _ => .badValue

/-- The first line about faulty values of a node. -/
def faultSummary (count : Nat) : String :=
  integerText count ++ " validation error" ++ (if count = 1 then "" else "s") ++
    " for WorkflowNode"

/-- What is wrong with an answer that cannot be written. For a torn text this leaves out where it is torn. -/
def flawMessage : Json.Flaw → Writing
  | .notFinite => "Out of range float values are not JSON compliant"
  | .tooLong => Trouble.tooManyDigits.text
  | .torn => "surrogates not allowed"

/-- The cause in words. -/
def message : Rejection → Writing
  | notFound id => "Node '" ++ id ++ "' not found"
  | busy id => "Node '" ++ id ++ "' already has a generation in flight"
  | badTransition id current requested =>
      "Node '" ++ id ++ "': cannot transition from '" ++ current.slug ++ "' to '" ++
        requested.slug ++ "'. Allowed: " ++ quotedList (current.next.map Status.slug)
  | unknownKind given => given.display ++ " is not a valid NodeKind"
  | unknownStatus given => given.display ++ " is not a valid NodeStatus"
  | unknownFailure given => given.display ++ " is not a valid FailureKind"
  | reservedFields names => "Fields " ++ quotedList names ++ " cannot be set when adding a node"
  | immutableFields names => "Fields " ++ quotedList names ++ " are immutable"
  | executionFields names => "Fields " ++ quotedList names ++ " are set by node execution only"
  | unknownFields names => "Unknown node fields: " ++ Json.quotedNames names
  | faulty faults => faultSummary faults.length
  | notUpload id kind =>
      "Node '" ++ id ++ "' is a " ++ kind.slug ++ " node, not an upload node"
  | failed failure => failure.message
  | noFreshId => "No fresh node id"
  | tooDeep => "Maximum serialization depth exceeded"
  | unwritable flaw => flawMessage flaw
  | overrun container => (Trouble.overrun container).text

end Rejection

end PromptCanvas
