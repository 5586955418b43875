import PromptCanvas.Proofs.Http.Answer
import PromptCanvas.Proofs.Session.Run

set_option autoImplicit false

/-! # Answers in a session

As long as all that comes in can be sent back, every answer in a session is one of success or of a refusal that has
left no mark, unless a node cannot be told or a reply lapses. A node that is nested too deep to be told can be had
by an update, which is then made and not answered. -/

namespace PromptCanvas.Session

variable {session : Session}

/-- A request in a session is settled by its answer, whether this is given at once or later, after any moves that
    give only what can be sent back, and with any reply. -/
def Settles (session : Session) (request : Http.HttpRequest) : Prop :=
  Http.SettlesIn session.studio
    (fun found => ∃ moves, (∀ move ∈ moves, move.isSendable = true) ∧
      found = ((session.step (.request request)).after moves).studio)
    (Http.handle session.studio request)

end PromptCanvas.Session
