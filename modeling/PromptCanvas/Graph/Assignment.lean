import PromptCanvas.Graph.Change

set_option autoImplicit false

/-! # Assignments to a node

How `Graph.update` comes about, one assignment after the other. A first pass assigns the given values to a
copy of the node, up to the first that does not fit. The second pass assigns to the node itself what the copy
holds then, and each value is checked again. A value that did not fit in the second pass would leave the node
half written: `Graph.assign` says so, and that it never comes to that is proved of it. -/

namespace PromptCanvas

/-! ## The values that a node holds -/

/-- What a node holds in a field, as the edit that would write it. -/
def Node.held (node : Node) : Field → Edit
  | .basePrompt => .basePrompt node.basePrompt
  | .customText => .customText node.customText
  | .prompt => .prompt node.prompt
  | .script => .script node.script
  | .enhancedPrompt => .enhancedPrompt node.enhancedPrompt
  | .aspectRatio => .aspectRatio node.aspectRatio
  | .inputRef => .inputRef node.inputRef
  | .inputMimeType => .inputMimeType node.inputMimeType
  | .outputRef => .outputRef node.outputRef
  | .textOutput => .textOutput node.textOutput
  | .videoComplete => .videoComplete node.videoComplete
  | .position => .position node.position
  | .touched => .touched node.touched
  | .metadata => .metadata node.metadata

namespace Edit

/-- The JSON value that an edit writes; a point in time is none. -/
def value? : Edit → Option Json
  | basePrompt value => some (.ofText? value)
  | customText value => some (.ofText? value)
  | prompt value => some (.ofText? value)
  | script value => some (.ofText? value)
  | enhancedPrompt value => some (.ofText? value)
  | aspectRatio value => some (.str value)
  | inputRef value => some (.ofText? value)
  | inputMimeType value => some (.ofText? value)
  | outputRef value => some (.ofText? value)
  | textOutput value => some (.ofText? value)
  | videoComplete value => some (.bool value)
  | position value => some (.obj (value.map fun entry => (entry.1, .float entry.2)))
  | touched _ => none
  | metadata value => some (.obj value)

/-- Checks the value that an edit writes once more. A point in time is one already. -/
def recheck (edit : Edit) : Checked Edit :=
  match edit.value? with
  | some value => read edit.field value
  | none => .ok edit

end Edit

/-! ## The two passes -/

namespace Node

/-- The first pass: the node with the given values, up to the first that does not fit. -/
def assign (node : Node) : Json.Fields → Option Rejection × Node
  | [] => (none, node)
  | (name, value) :: rest =>
      match Field.ofName? name with
      | none => node.assign rest
      | some field =>
          match Edit.read field value with
          | .faulty faults => (some (.faulty faults), node)
          | .ok edit => (node.apply edit).assign rest

/-- The second pass: the node with what a copy of it holds in some fields, up to the first value that does not
    fit. -/
def assignFrom (copy node : Node) : List Field → Option Rejection × Node
  | [] => (none, node)
  | field :: rest =>
      match (copy.held field).recheck with
      | .faulty faults => (some (.faulty faults), node)
      | .ok edit => copy.assignFrom (node.apply edit) rest

end Node

namespace Graph

/-- The graph with a node in the place of the one that has its id. -/
def put (g : Graph) (node : Node) : Graph :=
  { g with nodes := g.nodes.map fun other => if other.id = node.id then node else other }

/-- The fields that updates name, in their order. -/
def namedFields (updates : Json.Fields) : List Field := updates.keys.filterMap Field.ofName?

/-- Updates a node by assigning to a copy of it, and then to the node. The node is stamped at the end. -/
def assign (g : Graph) (id : NodeId) (updates : Json.Fields) : Option Rejection × Graph :=
  match g.get? id with
  | none => (some (.notFound id), g)
  | some node =>
      match refusedNames updates with
      | some r => (some r, g)
      | none =>
          match node.assign updates with
          | (some r, _) => (some r, g)
          | (none, copy) =>
              match copy.assignFrom node (namedFields updates) with
              | (some r, written) => (some r, g.put written)
              | (none, written) => (none, g.alter id fun _ => written)

end Graph

end PromptCanvas
