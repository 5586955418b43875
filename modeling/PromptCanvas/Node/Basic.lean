import PromptCanvas.Json.Basic
import PromptCanvas.Node.Kind
import PromptCanvas.Node.Status
import PromptCanvas.Validation.Value

set_option autoImplicit false

/-! # Nodes

A node is one step of a pipeline: what it works on, what its user entered, what it has produced, and
where it is in its execution. `Edit` is a change of one of the fields that users and runs may write;
the remaining fields belong to the graph. An edit is made from a JSON value by `Edit.read`, which
checks the value, and `Node.apply` then writes it. -/

namespace PromptCanvas

/-- The name of a node. -/
abbrev NodeId := String

/-- One step of a pipeline. -/
structure Node where
  id : NodeId
  kind : NodeKind
  parent : Option NodeId
  /-- The description that the node works on. -/
  basePrompt : Option String := none
  /-- The parameters that the user entered. -/
  customText : Option String := none
  /-- The free prompt of a source. -/
  prompt : Option String := none
  /-- The script of a source. -/
  script : Option String := none
  /-- The result of a creative boost. -/
  enhancedPrompt : Option String := none
  aspectRatio : String := "1:1"
  inputRef : Option String := none
  inputMimeType : Option String := none
  outputRef : Option String := none
  /-- The text that a podcast node produced. -/
  textOutput : Option String := none
  videoComplete : Bool := false
  status : Status := .idle
  /-- Why the last run failed. -/
  failure : Option Failure := none
  /-- The name of the run begun last. -/
  generation : Option String := none
  position : Table Writing Binary64 := [("x", .ofInt 0), ("y", .ofInt 0)]
  /-- The time of the last change as it was given, if it was. It counts until the graph has stamped the node. -/
  touched : Option Moment := none
  metadata : Json.Fields := []
  /-- When the node was added: the number of writes that had stamped nodes by then. -/
  created : Nat := 0
  /-- The number of the graph's write that stamped the node last; zero before any. -/
  tick : Nat := 0

namespace Node

/-- Whether a node holds a result that a child can start from. -/
def hasReadyOutput (node : Node) : Bool :=
  node.status == .ready && node.outputRef.getD "" != ""

end Node

/-! ## Fields that can be edited -/

/-- The fields that an edit can change, in the order of a node's fields. -/
inductive Field where
  | basePrompt
  | customText
  | prompt
  | script
  | enhancedPrompt
  | aspectRatio
  | inputRef
  | inputMimeType
  | outputRef
  | textOutput
  | videoComplete
  | position
  | touched
  | metadata
deriving DecidableEq, Repr

namespace Field

/-- The fields in order. -/
def all : List Field :=
  [basePrompt, customText, prompt, script, enhancedPrompt, aspectRatio, inputRef, inputMimeType,
    outputRef, textOutput, videoComplete, position, touched, metadata]

/-- The name of a field in requests and answers. -/
def name : Field → String
  | basePrompt => "base_prompt"
  | customText => "custom_text"
  | prompt => "prompt"
  | script => "script"
  | enhancedPrompt => "enhanced_prompt"
  | aspectRatio => "aspect_ratio"
  | inputRef => "input_ref"
  | inputMimeType => "input_mime_type"
  | outputRef => "output_ref"
  | textOutput => "text_output"
  | videoComplete => "video_complete"
  | position => "position"
  | touched => "updated_at"
  | metadata => "metadata"

/-- The field with a name. -/
def ofName? (name : Writing) : Option Field := all.find? fun field => name = field.name

end Field

/-- The names of the fields that never change after a node was added. -/
def immutableFields : List String := ["created_at", "id", "kind", "parent_id"]

/-- The names of the fields that only the execution of a node writes. -/
def executionFields : List String := ["error", "generation_id", "status"]

/-! ## Edits -/

/-- A new value for one field. `touched` gives the time of the last change; what writes none leaves the time at
    which the node was added. -/
inductive Edit where
  | basePrompt (value : Option String)
  | customText (value : Option String)
  | prompt (value : Option String)
  | script (value : Option String)
  | enhancedPrompt (value : Option String)
  | aspectRatio (value : String)
  | inputRef (value : Option String)
  | inputMimeType (value : Option String)
  | outputRef (value : Option String)
  | textOutput (value : Option String)
  | videoComplete (value : Bool)
  | position (value : Table Writing Binary64)
  | touched (value : Option Moment)
  | metadata (value : Json.Fields)

namespace Edit

/-- The field that an edit changes. -/
def field : Edit → Field
  | basePrompt _ => .basePrompt
  | customText _ => .customText
  | prompt _ => .prompt
  | script _ => .script
  | enhancedPrompt _ => .enhancedPrompt
  | aspectRatio _ => .aspectRatio
  | inputRef _ => .inputRef
  | inputMimeType _ => .inputMimeType
  | outputRef _ => .outputRef
  | textOutput _ => .textOutput
  | videoComplete _ => .videoComplete
  | position _ => .position
  | touched _ => .touched
  | metadata _ => .metadata

/-- The edit that gives a field a JSON value, if the value fits the field. -/
def check (field : Field) (value : Json) : Checked Edit :=
  match field with
  | .basePrompt => (Value.text? value).map basePrompt
  | .customText => (Value.text? value).map customText
  | .prompt => (Value.text? value).map prompt
  | .script => (Value.text? value).map script
  | .enhancedPrompt => (Value.text? value).map enhancedPrompt
  | .aspectRatio => (Value.text value).map aspectRatio
  | .inputRef => (Value.text? value).map inputRef
  | .inputMimeType => (Value.text? value).map inputMimeType
  | .outputRef => (Value.text? value).map outputRef
  | .textOutput => (Value.text? value).map textOutput
  | .videoComplete => (Value.truth value).map videoComplete
  | .position => (Value.reals value).map position
  | .touched => (Value.time value).map fun moment => touched (some moment)
  | .metadata => (Value.object value).map metadata

/-- The edit that gives a field a JSON value; a fault is placed under the field's name. -/
def read (field : Field) (value : Json) : Checked Edit := (check field value).under field.name

end Edit

/-- The node after an edit. -/
def Node.apply (node : Node) : Edit → Node
  | .basePrompt value => { node with basePrompt := value }
  | .customText value => { node with customText := value }
  | .prompt value => { node with prompt := value }
  | .script value => { node with script := value }
  | .enhancedPrompt value => { node with enhancedPrompt := value }
  | .aspectRatio value => { node with aspectRatio := value }
  | .inputRef value => { node with inputRef := value }
  | .inputMimeType value => { node with inputMimeType := value }
  | .outputRef value => { node with outputRef := value }
  | .textOutput value => { node with textOutput := value }
  | .videoComplete value => { node with videoComplete := value }
  | .position value => { node with position := value }
  | .touched value => { node with touched := value }
  | .metadata value => { node with metadata := value }

/-- The node after several edits, one after the other. -/
def Node.applyAll (node : Node) (edits : List Edit) : Node := edits.foldl Node.apply node

end PromptCanvas
