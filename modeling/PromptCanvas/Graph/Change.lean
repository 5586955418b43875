import PromptCanvas.Graph.Basic
import PromptCanvas.Rejection

set_option autoImplicit false

/-! # Changes of single nodes

Adding a node, editing its fields, and moving it through its execution. An operation that is refused
leaves the graph as it was; only a draw that `add` has made stays made. Each change of a node stamps it
with the number of the change. -/

namespace PromptCanvas.Graph

/-! ## Fresh ids -/

/-- The id that a draw gives to a node: its first twelve characters. -/
def idOfDraw (draw : String) : NodeId := String.ofList ("node-".toList ++ draw.toList.take 12)

/-- Whether an id was never given to a node. -/
def unused (g : Graph) (id : NodeId) : Bool := !g.has id && id ∉ g.retired

/-- The first of at most `fuel` draws whose id was never used, as an id, and the draws after it. -/
def freshFrom (g : Graph) : (fuel : Nat) → Draws → Option (NodeId × Draws)
  | 0, _ => none
  | fuel + 1, draws =>
      let (text, rest) := draws.next
      if g.unused (idOfDraw text) then some (idOfDraw text, rest) else freshFrom g fuel rest

/-- So many draws show every id that is still to be drawn: the given ones, and then the counted ones until
    each id of twelve digits has come, since longer numbers only repeat the ids of their beginnings. -/
def drawBound (draws : Draws) : Nat := Nat.pow 16 12 + 16 * draws.counted + draws.given.length

/-- An id that was never used, and the draws after it. -/
def freshId? (g : Graph) : Option (NodeId × Draws) := g.freshFrom (drawBound g.draws) g.draws

/-! ## Adding -/

/-- What a new child takes over from a parent with a ready result. -/
def seeds (parent : Option Node) : List Edit :=
  match parent with
  | some node =>
      if node.hasReadyOutput then [.basePrompt node.basePrompt, .inputRef node.outputRef] else []
  | none => []

/-- The edits for the given fields, in the order of a node's fields; other names are passed over. -/
def givenEdits (fields : Json.Fields) : Checked (List Edit) :=
  .all (Field.all.filterMap fun field => (fields.get? field.name).map (Edit.read field))

/-- The graph with a new node, and its link to its parent. -/
def attach (g : Graph) (node : Node) : Graph :=
  let g := { g with nodes := g.nodes ++ [node] }
  match node.parent with
  | some parent =>
      { g with
        parentEdges := g.parentEdges.set node.id ⟨parent, node.id⟩
        childLists := g.childLists.set parent (g.childIds parent ++ [node.id]) }
  | none => g

/-- The names of given fields that a new node cannot be given. -/
def reserved (fields : Json.Fields) : List String :=
  ["created_at", "error", "generation_id", "id", "kind", "parent_id", "status"].filter
    fun name => fields.has name

/-- The kind that a JSON value names. -/
def kindOf? : Json → Option NodeKind
  | .str s => NodeKind.ofSlug? s
  | _ => none

/-- The live parent that was asked for; none where no id or an empty one is given, and none for an
    unknown id unless the graph is strict. -/
def parentFor (g : Graph) (parent : Option NodeId) : Except Rejection (Option Node) :=
  match parent with
  | none => .ok none
  | some id =>
      if id = "" then .ok none
      else
        match g.get? id with
        | some node => .ok (some node)
        | none => if g.strict then .error (.notFound id) else .ok none

/-- Adds a node. It starts idle, with what `seeds` gives, the given aspect ratio unless one is among the
    fields, and the fields. -/
def add (g : Graph) (aspectRatio : String) (kind : Json) (parent : Option NodeId)
    (fields : Json.Fields) : Except Rejection Node × Graph :=
  match reserved fields with
  | name :: names => (.error (.reservedFields (name :: names)), g)
  | [] =>
      match kindOf? kind with
      | none => (.error (.unknownKind kind), g)
      | some kind =>
          match g.parentFor parent with
          | .error r => (.error r, g)
          | .ok parent =>
              match g.freshId? with
              | none => (.error .noFreshId, g)
              | some (id, draws) =>
                  let g := { g with draws := draws }
                  match givenEdits fields with
                  | .faulty faults => (.error (.faulty faults), g)
                  | .ok edits =>
                      let node : Node :=
                        { id := id, kind := kind, parent := parent.map Node.id,
                          aspectRatio := aspectRatio, created := g.clock }
                      let node := node.applyAll (seeds parent ++ edits)
                      (.ok node, g.attach node)

/-! ## Changing -/

/-- The graph in which a change was made to the node with an id, and the node stamped. -/
def alter (g : Graph) (id : NodeId) (change : Node → Node) : Graph :=
  let tick := g.clock + 1
  { g with
    clock := tick
    nodes := g.nodes.map fun node =>
      if node.id = id then { change node with tick := tick } else node }

/-- Makes edits to a node. -/
def edit (g : Graph) (id : NodeId) (edits : List Edit) : Except Rejection Graph :=
  if g.has id then .ok (g.alter id (·.applyAll edits)) else .error (.notFound id)

/-- The edits for updates, in their order; the first value that does not fit is refused. -/
def updateEdits : Json.Fields → Except Rejection (List Edit)
  | [] => .ok []
  | (name, value) :: rest =>
      match Field.ofName? name with
      | none => updateEdits rest
      | some field =>
          match Edit.read field value with
          | .faulty faults => .error (.faulty faults)
          | .ok edit => (updateEdits rest).map (edit :: ·)

/-- Names in increasing order. -/
def sorted (names : List String) : List String := names.mergeSort fun a b => a ≤ b

/-- Whether code points come before others, or are the same. -/
def precedes : List Nat → List Nat → Bool
  | [], _ => true
  | _ :: _, [] => false
  | a :: as, b :: bs => if a = b then precedes as bs else a < b

/-- Names of fields in increasing order of their code points. -/
def sortedFields (names : List Writing) : List Writing :=
  names.mergeSort fun a b => precedes a.points b.points

/-- The refusal of updates to fields that users may not write. -/
def refusedNames (updates : Json.Fields) : Option Rejection :=
  let immutable := immutableFields.filter fun (name : String) => updates.has name
  let execution := executionFields.filter fun (name : String) => updates.has name
  let unknown := updates.keys.filter fun name => (Field.ofName? name).isNone
  if immutable ≠ [] then some (.immutableFields immutable)
  else if execution ≠ [] then some (.executionFields execution)
  else if unknown ≠ [] then some (.unknownFields (sortedFields unknown))
  else none

/-- Updates fields of a node by their names: all of them, or none where one is refused. -/
def update (g : Graph) (id : NodeId) (updates : Json.Fields) : Except Rejection Graph :=
  if g.has id then
    match refusedNames updates with
    | some r => .error r
    | none =>
        match updateEdits updates with
        | .error r => .error r
        | .ok edits => g.edit id edits
  else .error (.notFound id)

/-! ## Execution -/

/-- Begins a run: the node is running, without failure, under the name of the next draw. -/
def begin (g : Graph) (id : NodeId) : Except Rejection Graph :=
  match g.get? id with
  | none => .error (.notFound id)
  | some node =>
      if Status.running ∈ node.status.next then
        let (text, draws) := g.draws.next
        let g := { g with draws := draws }
        .ok (g.alter id fun node =>
          { node with generation := some text, status := .running, failure := none })
      else .error (.badTransition id node.status .running)

/-- Moves a node to a status. Only a failed node keeps a failure. -/
def setStatus (g : Graph) (id : NodeId) (status : Status) (failure : Option Failure) :
    Except Rejection Graph :=
  match g.get? id with
  | none => .error (.notFound id)
  | some node =>
      if status ∈ node.status.next then
        .ok (g.alter id fun node =>
          { node with status := status, failure := if status = .failed then failure else none })
      else .error (.badTransition id node.status status)

/-- The status that a JSON value names. -/
def statusOf? : Json → Option Status
  | .str s => Status.ofSlug? s
  | _ => none

/-- Moves a node to a status given by its name. -/
def setStatusNamed (g : Graph) (id : NodeId) (status : Json) (failure : Option Failure) :
    Except Rejection Graph :=
  if g.has id then
    match statusOf? status with
    | none => .error (.unknownStatus status)
    | some status => g.setStatus id status failure
  else .error (.notFound id)

end PromptCanvas.Graph
