import PromptCanvas.Graph.Removal

set_option autoImplicit false

/-! # Nodes taken out one by one

How `Graph.remove` comes about. A first pass takes the ids of the set in some order, and reads the edges and
the lists that it is changing. A second pass goes through the edges that are left then, and cuts those that
come from the set. That the order does not matter is proved of it. -/

namespace PromptCanvas.Graph

/-- The first pass at an id: its node, its list of children and the edge to it go, the id is retired, and the
    parent at the other end of the edge, where it is not of the set, no longer lists it. -/
def takeOut (doomed : List NodeId) (g : Graph) (id : NodeId) : Graph :=
  { g with
    nodes := g.nodes.filter fun node => node.id ≠ id
    retired := retire id g.retired
    parentEdges := g.parentEdges.erase id
    childLists := unlink doomed g.parentEdges (g.childLists.erase id) id }

/-- The second pass at an edge: where it comes from the set, it goes, and the node to which it led becomes a
    root. -/
def cutLoose (doomed : List NodeId) (g : Graph) (entry : NodeId × Edge) : Graph :=
  if entry.2.source ∈ doomed then
    { g with
      nodes := g.nodes.map fun node => if node.id = entry.1 then { node with parent := none } else node
      parentEdges := g.parentEdges.erase entry.1 }
  else g

/-- The graph without the nodes of a set of ids, which are taken in the given order. -/
def removeInOrder (g : Graph) (doomed : List NodeId) : Graph :=
  let taken := doomed.foldl (takeOut doomed) g
  taken.parentEdges.foldl (cutLoose doomed) taken

end PromptCanvas.Graph
