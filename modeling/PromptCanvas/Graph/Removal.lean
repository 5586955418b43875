import PromptCanvas.Graph.Basic

set_option autoImplicit false

/-! # Removing nodes

Nodes are removed together: the set of ids leaves the graph and is retired, the links among them and to
them disappear, and a node that outlives its parent becomes a root. Deleting a node removes it and all
its descendants; invalidating it removes the descendants only. -/

namespace PromptCanvas.Graph

/-- The ids with one more, in increasing order and each once. -/
def retire (id : NodeId) : List NodeId → List NodeId
  | [] => [id]
  | other :: rest =>
      if id = other then other :: rest
      else if id < other then id :: other :: rest
      else other :: retire id rest

/-- A removed child leaves the list of a parent that stays. -/
def unlink (doomed : List NodeId) (edges : Table NodeId Edge) (lists : Table NodeId (List NodeId))
    (id : NodeId) : Table NodeId (List NodeId) :=
  match edges.get? id with
  | none => lists
  | some edge =>
      if edge.source ∈ doomed then lists
      else
        match lists.get? edge.source with
        | none => lists
        | some siblings => lists.set edge.source (siblings.erase id)

/-- Whether the edge to a node that stays comes from a removed one. -/
def orphaned (g : Graph) (doomed : List NodeId) (id : NodeId) : Bool :=
  match g.edgeTo? id with
  | some edge => edge.source ∈ doomed
  | none => false

/-- The graph without the nodes of a set of ids. -/
def remove (g : Graph) (doomed : List NodeId) : Graph :=
  let staying := g.nodes.filter fun node => node.id ∉ doomed
  { g with
    nodes := staying.map fun node =>
      if g.orphaned doomed node.id then { node with parent := none } else node
    parentEdges := g.parentEdges.filter fun entry =>
      entry.1 ∉ doomed && entry.2.source ∉ doomed
    childLists := (doomed.foldl (unlink doomed g.parentEdges) g.childLists).filter fun entry =>
      entry.1 ∉ doomed
    retired := doomed.foldl (fun ids id => retire id ids) g.retired }

/-- Deletes a node with all its descendants; the removed ids come with the graph. -/
def delete (g : Graph) (id : NodeId) : List NodeId × Graph :=
  if g.has id then
    let doomed := id :: g.descendants id
    (doomed, g.remove doomed)
  else ([], g)

/-- Removes the descendants of a node; the removed ids come with the graph. -/
def invalidate (g : Graph) (id : NodeId) : List NodeId × Graph :=
  let doomed := g.descendants id
  (doomed, g.remove doomed)

end PromptCanvas.Graph
