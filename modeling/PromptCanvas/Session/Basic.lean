import PromptCanvas.Http.Asked

set_option autoImplicit false

/-! # Sessions

A session is a studio at work: requests and calls come in, errands go out to the service, and replies come
back in any order. Between two moves nothing else happens, because every move runs to its end or to the
point where it waits.

A run that was started without waiting is pending until it is taken up; from then on its errand is out
like any other. `Session.after` is the session that a list of moves leads to. -/

namespace PromptCanvas

/-- A studio and the errands that are out. -/
structure Session where
  studio : Studio := {}
  /-- The errands that wait for a reply, in the order in which they went out. -/
  awaiting : List Errand := []

/-- What can happen in a session. -/
inductive Move where
  /-- An operation is called. -/
  | perform (operation : Operation)
  /-- A request comes in. -/
  | request (request : Http.HttpRequest)
  /-- The pending run that was started first makes its call. -/
  | takeUp
  /-- The errand at a place gets its reply; `seen` are the graphs seen while it was out. -/
  | reply (place : Nat) (service : Service) (seen : List Graph)

/-- The operation behind a move. -/
def Move.operation? : Move → Option Operation
  | perform operation => some operation
  | request incoming => incoming.asked
  | takeUp => none
  | reply _ _ _ => none

/-- Whether no node is moved through its execution by hand. -/
def Move.isIndirect (move : Move) : Bool := move.operation?.all fun operation => !operation.isManual

/-- Whether no artifact is given by the caller. -/
def Move.sparesArtifacts (move : Move) : Bool :=
  move.operation?.all fun operation => !operation.givesArtifact

/-- Whether nothing is updated that runs start from or have written. -/
def Move.sparesResults (move : Move) : Bool :=
  move.operation?.all fun operation => !operation.givesResult

/-- Whether all that comes in with a move can be sent back. -/
def Move.isSendable : Move → Bool
  | perform operation => operation.isSendable
  | request incoming => incoming.body.isSendable
  | takeUp => true
  | reply _ _ _ => true

/-- Whether a node is given a new input while it may be running. -/
def Move.renewsInput (id : NodeId) (move : Move) : Bool :=
  move.operation?.any fun operation => operation.renewsInput id

namespace Session

/-- The session in which nothing has happened yet. -/
def opening (settings : Settings) (registry : Registry) (strict : Bool) (draws : Draws) : Session :=
  { studio :=
      { settings := settings
        graph := { strict := strict, draws := draws }
        registry := registry } }

/-- The graph of a session. -/
abbrev graph (session : Session) : Graph := session.studio.graph

/-- The runs that have begun and not yet had their reply: those pending, and those whose errand is out. -/
def inFlight (session : Session) : List Ticket :=
  session.studio.pending ++ session.awaiting.filterMap Errand.ticket?

/-- The session after an operation that has left a studio, and an errand if it waits. -/
def enter (session : Session) (left : Studio × Option Errand) : Session :=
  { studio := left.1, awaiting := session.awaiting ++ left.2.toList }

/-- The session after a move. -/
def step (session : Session) : Move → Session
  | .perform operation => session.enter (session.studio.perform operation)
  | .request request => session.enter (Http.handle session.studio request).left
  | .takeUp =>
      match session.studio.takeUp? with
      | some served => session.enter served.left
      | none => session
  | .reply place service seen =>
      match session.awaiting[place]? with
      | some errand =>
          { studio := (session.studio.resume service seen errand).2
            awaiting := session.awaiting.eraseIdx place }
      | none => session

/-- The session after moves, one after the other. -/
def after (session : Session) (moves : List Move) : Session := moves.foldl step session

/-- The graphs of a session before, between and after moves. -/
def shown (session : Session) : List Move → List Graph
  | [] => [session.graph]
  | move :: moves => session.graph :: (session.step move).shown moves

/-! ## What moves bring about -/

/-- The id of the node that a move adds. -/
def creates (session : Session) (move : Move) : Option NodeId :=
  move.operation?.bind session.studio.creates

/-- The ids of the nodes that moves add, in order. -/
def created (session : Session) : List Move → List NodeId
  | [] => []
  | move :: moves => (session.creates move).toList ++ (session.step move).created moves

/-- The node of which a move begins a run. -/
def begins (session : Session) (move : Move) : Option NodeId :=
  (move.operation?.bind session.studio.beginning).map Prod.fst

/-- The ticket of the run that a move begins, if a request is made. -/
def issues (session : Session) (move : Move) : Option Ticket :=
  (move.operation?.bind session.studio.beginning).bind Prod.snd

/-- The generation id under which a move begins a run. -/
def stamp (session : Session) (move : Move) : Option String :=
  (session.begins move).bind fun id => ((session.step move).graph.get? id).bind Node.generation

/-- The generation ids under which moves begin runs, in order. -/
def stamps (session : Session) : List Move → List String
  | [] => []
  | move :: moves => (session.stamp move).toList ++ (session.step move).stamps moves

/-- Whether one of several moves begins a run of a node. -/
def rebegins (session : Session) (id : NodeId) : List Move → Bool
  | [] => false
  | move :: moves => session.begins move == some id || (session.step move).rebegins id moves

/-- The call with which a move goes out to the service, if it does. -/
def calls (session : Session) (move : Move) : Option Call :=
  ((session.step move).awaiting[session.awaiting.length]?).map Errand.call

/-- The session after a move and, if an errand has gone out with it, the reply to that errand. -/
def answered (session : Session) (move : Move) (service : Service) : Session :=
  (session.step move).step (.reply session.awaiting.length service [])

end Session

end PromptCanvas
