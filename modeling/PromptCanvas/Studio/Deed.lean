import PromptCanvas.Studio.Served

set_option autoImplicit false

/-! # Deeds

A deed is an operation or a reply that is addressed to one node and runs to its end: an update, a change of
status, a removal, or the reply to a run or to a boost. `Studio.enact` is the studio after a deed, with what
the deed brings to its caller.

Things that differ only in when their nodes were stamped are untimed to be the same. -/

namespace PromptCanvas

/-- What is done to a node. -/
inductive Deed where
  | update (id : NodeId) (updates : Json.Fields)
  | setStatus (id : NodeId) (status : Json) (failure : Option Failure)
  | delete (id : NodeId)
  | invalidate (id : NodeId)
  /-- The reply of a service to a run. -/
  | complete (ticket : Ticket) (service : Service)
  /-- The reply of a service to a boost; `seen` are the graphs seen while it was out. -/
  | boost (before : Node) (service : Service) (seen : List Graph)

/-- What a deed brings. -/
inductive Outcome where
  | refused (r : Rejection)
  | node (found : Option Node)
  | removed (ids : List NodeId)

/-- What the reply to an errand brings. -/
def Outcome.ofReply : Except Rejection (Option Node) → Outcome
  | .ok found => .node found
  | .error r => .refused r

namespace Deed

/-- The node that a deed is addressed to. -/
def target : Deed → NodeId
  | update id _ => id
  | setStatus id _ _ => id
  | delete id => id
  | invalidate id => id
  | complete ticket _ => ticket.node
  | boost before _ _ => before.id

/-- The deed when one more graph was seen before it. -/
def seeing (graph : Graph) : Deed → Deed
  | boost before service seen => boost before service (seen ++ [graph])
  | deed => deed

end Deed

namespace Studio

/-- What a change of a node brings, and the studio after it. -/
def changed (studio : Studio) (id : NodeId) (result : Except Rejection Graph) : Outcome × Studio :=
  match result with
  | .ok graph => (.node (graph.get? id), { studio with graph := graph })
  | .error r => (.refused r, studio)

/-- What a deed brings, and the studio after it. -/
def enact (studio : Studio) : Deed → Outcome × Studio
  | .update id updates => studio.changed id (studio.graph.update id updates)
  | .setStatus id status failure =>
      studio.changed id (studio.graph.setStatusNamed id status failure)
  | .delete id =>
      let (removed, graph) := studio.graph.delete id
      (.removed removed, { studio with graph := graph })
  | .invalidate id =>
      let (removed, graph) := studio.graph.invalidate id
      (.removed removed, { studio with graph := graph })
  | .complete ticket service =>
      let (reply, after) := studio.resume service [] (.run ticket)
      (.ofReply reply, after)
  | .boost before service seen =>
      let (reply, after) := studio.resume service seen (.boost before)
      (.ofReply (reply.map some), after)

end Studio

/-! ## Without times -/

/-- A node apart from when it was stamped. -/
def Node.untimed (node : Node) : Node := { node with tick := 0 }

/-- A graph apart from when its nodes were stamped. -/
def Graph.untimed (g : Graph) : Graph := { g with nodes := g.nodes.map Node.untimed, clock := 0 }

/-- A studio apart from when its nodes were stamped. -/
def Studio.untimed (studio : Studio) : Studio := { studio with graph := studio.graph.untimed }

/-- Outcomes that say the same, apart from when nodes were stamped and in which order ids are told. -/
def Outcome.Alike : Outcome → Outcome → Prop
  | .refused r, .refused r' => r = r'
  | .node found, .node found' => found.map Node.untimed = found'.map Node.untimed
  | .removed ids, .removed ids' => ids.Perm ids'
  | _, _ => False

end PromptCanvas
