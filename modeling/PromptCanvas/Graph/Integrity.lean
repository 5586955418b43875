import PromptCanvas.Graph.Basic

set_option autoImplicit false

/-! # Integrity and statistics

A graph is sound when its two indices and its nodes agree and no node is below itself. `problems` lists
what is not so, edge by edge and then node by node. -/

namespace PromptCanvas

/-- What can be wrong with a graph. -/
inductive GraphProblem where
  /-- The edge is kept under another id than its target. -/
  | misplaced (edge : Edge) (key : NodeId)
  | sourceMissing (edge : Edge)
  | targetMissing (edge : Edge)
  /-- The node names another parent than its edge does. -/
  | parentMismatch (id : NodeId)
  /-- The node's parent is below the node. -/
  | onCycle (id : NodeId)
deriving DecidableEq, Repr

/-- The problem in words. -/
def GraphProblem.message : GraphProblem → String
  | .misplaced edge key => "Edge " ++ edge.id ++ ": keyed under '" ++ key ++ "'"
  | .sourceMissing edge => "Edge " ++ edge.id ++ ": source '" ++ edge.source ++ "' not found"
  | .targetMissing edge => "Edge " ++ edge.id ++ ": target '" ++ edge.target ++ "' not found"
  | .parentMismatch id => "Node " ++ id ++ ": parent reference does not match its edge"
  | .onCycle id => "Node " ++ id ++ ": part of a cycle"

namespace Graph

/-- The problems of one edge. -/
def edgeProblems (g : Graph) (key : NodeId) (edge : Edge) : List GraphProblem :=
  (if edge.target = key then [] else [.misplaced edge key]) ++
    (if g.has edge.source then [] else [.sourceMissing edge]) ++
    (if g.has edge.target then [] else [.targetMissing edge])

/-- Whether the node's parent is one of the node's descendants. -/
def parentBelow (g : Graph) (node : Node) : Bool :=
  match node.parent with
  | some parent => parent ≠ "" && parent ∈ g.descendants node.id
  | none => false

/-- The problems of one node. -/
def nodeProblems (g : Graph) (node : Node) : List GraphProblem :=
  (if (g.edgeTo? node.id).map Edge.source = node.parent then [] else [.parentMismatch node.id]) ++
    (if node.id ∈ g.ancestors node.id ∨ g.parentBelow node then [.onCycle node.id] else [])

/-- All problems of a graph, none where it is sound. -/
def problems (g : Graph) : List GraphProblem :=
  (g.parentEdges.flatMap fun entry => g.edgeProblems entry.1 entry.2) ++
    g.nodes.flatMap g.nodeProblems

/-! ## Statistics -/

/-- Numbers about a graph. -/
structure Stats where
  totalNodes : Nat
  totalEdges : Nat
  roots : Nat
  byStatus : Table String Nat
  byKind : Table String Nat
deriving DecidableEq, Repr

/-- How often each name occurs, in the order of first occurrence. -/
def tally (names : List String) : Table String Nat :=
  names.foldl (fun counts name => counts.set name ((counts.get? name).getD 0 + 1)) []

/-- The statistics of a graph. -/
def stats (g : Graph) : Stats :=
  { totalNodes := g.nodes.length
    totalEdges := g.parentEdges.length
    roots := g.roots.length
    byStatus := tally (g.nodes.map fun node => node.status.slug)
    byKind := tally (g.nodes.map fun node => node.kind.slug) }

end Graph

end PromptCanvas
