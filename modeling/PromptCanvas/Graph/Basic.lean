import PromptCanvas.Json.Basic
import PromptCanvas.Node.Basic
import PromptCanvas.Text.Numeral

set_option autoImplicit false

/-! # The graph

The graph of a pipeline owns its nodes, in the order in which they were added, and two indices of the
links between them: for each child the edge from its parent, and for each parent its children. A node
has at most one parent edge, because edges are kept by their target. The ids of removed nodes are
retired: no node gets such an id again.

`Draws` is the source of ids: texts given beforehand, and a count after these are used up. -/

namespace PromptCanvas

/-! ## Draws -/

/-- The source of ids. -/
structure Draws where
  /-- The draws given beforehand that are still to come. -/
  given : List String := []
  /-- How many draws were counted after the given ones. -/
  counted : Nat := 0
deriving DecidableEq, Repr

namespace Draws

/-- The n-th counted draw: the number in twelve hexadecimal digits, and twenty zeros. -/
def numbered (n : Nat) : String :=
  String.ofList (Text.hexDigits 12 n ++ List.replicate 20 '0')

/-- The next draw, and the source after it. -/
def next (draws : Draws) : String × Draws :=
  match draws.given with
  | text :: rest => (text, { draws with given := rest })
  | [] => (numbered (draws.counted + 1), { draws with counted := draws.counted + 1 })

end Draws

/-! ## Edges -/

/-- A link from a parent to its child. -/
structure Edge where
  source : NodeId
  target : NodeId
deriving DecidableEq, Repr

/-- The name of an edge. -/
def Edge.id (edge : Edge) : String := "edge-" ++ edge.source ++ "-" ++ edge.target

/-! ## Graphs -/

/-- Nodes and the links between them. -/
structure Graph where
  /-- The live nodes, in the order in which they were added. -/
  nodes : List Node := []
  /-- The edge to each child, by the child's id. -/
  parentEdges : Table NodeId Edge := []
  /-- The children of each parent, in order, by the parent's id. -/
  childLists : Table NodeId (List NodeId) := []
  /-- The ids of removed nodes, in increasing order. -/
  retired : List NodeId := []
  /-- Whether an unknown parent is refused. -/
  strict : Bool := false
  draws : Draws := {}
  /-- The number of writes that stamped a node. -/
  clock : Nat := 0

namespace Graph

/-- The live node with an id. -/
def get? (g : Graph) (id : NodeId) : Option Node := g.nodes.find? fun node => node.id == id

/-- Whether a live node has the id. -/
def has (g : Graph) (id : NodeId) : Bool := (g.get? id).isSome

/-- The live nodes of a kind named by its slug; all of them where no name is given. -/
def list (g : Graph) (kind : Option String) : List Node :=
  let slug := kind.getD ""
  if slug = "" then g.nodes else g.nodes.filter fun node => node.kind.slug == slug

/-- All edges, in the order in which their targets were entered. -/
def edges (g : Graph) : List Edge := g.parentEdges.map Prod.snd

/-- The edge to a child. -/
def edgeTo? (g : Graph) (id : NodeId) : Option Edge := g.parentEdges.get? id

/-- The live parent of a node. -/
def parent? (g : Graph) (id : NodeId) : Option Node :=
  (g.edgeTo? id).bind fun edge => g.get? edge.source

/-- The ids of the children that a parent is listed with. -/
def childIds (g : Graph) (id : NodeId) : List NodeId := (g.childLists.get? id).getD []

/-- The live children of a node, in order. -/
def children (g : Graph) (id : NodeId) : List Node := (g.childIds id).filterMap g.get?

/-- The nodes to which no edge leads. -/
def roots (g : Graph) : List Node := g.nodes.filter fun node => (g.edgeTo? node.id).isNone

/-! ## Ancestors and descendants -/

/-- The sources met by following parent edges from `id`, nearest first, up to one already met. -/
def climb (edges : Table NodeId Edge) : (fuel : Nat) → (met : List NodeId) → NodeId → List NodeId
  | 0, _, _ => []
  | fuel + 1, met, id =>
      match edges.get? id with
      | none => []
      | some edge =>
          if edge.source ∈ met then []
          else edge.source :: climb edges fuel (edge.source :: met) edge.source

/-- The chain of parents from a node up to its root. -/
def ancestors (g : Graph) (id : NodeId) : List NodeId :=
  climb g.parentEdges (g.parentEdges.length + 1) [id] id

/-- The ids of `found` that are not yet met, each once. -/
def unmet (met : List NodeId) : List NodeId → List NodeId
  | [] => []
  | id :: rest => if id ∈ met then unmet met rest else id :: unmet (id :: met) rest

/-- The ids reached from a queue along child lists, in the order in which they are met; those already
    met are passed over. Each step takes one id off the queue and one unit of fuel. -/
def spread (lists : Table NodeId (List NodeId)) :
    (fuel : Nat) → (met queue : List NodeId) → List NodeId
  | 0, _, _ => []
  | _ + 1, _, [] => []
  | fuel + 1, met, id :: queue =>
      let fresh := unmet met ((lists.get? id).getD [])
      fresh ++ spread lists fuel (fresh.reverse ++ met) (queue ++ fresh)

/-- The number of entries in all child lists. It bounds what can be reached. -/
def listed (lists : Table NodeId (List NodeId)) : Nat :=
  lists.foldr (fun entry count => entry.2.length + count) 0

/-- The ids that are reached from `id` by one or more steps from parent to child, without `id`. -/
def descendants (g : Graph) (id : NodeId) : List NodeId :=
  spread g.childLists (listed g.childLists + 1) [id] [id]

end Graph

end PromptCanvas
