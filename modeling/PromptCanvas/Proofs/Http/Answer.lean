import PromptCanvas.Proofs.Http.Asked
import PromptCanvas.Proofs.Http.Sendable
import PromptCanvas.Proofs.Studio.Sendable
import PromptCanvas.Proofs.Studio.Refusal

set_option autoImplicit false

/-! # What answers say

An answer is one of success, or it is a refusal and the request has left no mark, as long as what nodes hold can be
sent back. There are three reasons why a request has no answer: a node is nested too deep to be told, the message
of a failure is torn, or there was no room for the trouble of a reply. This is so for the answers that are given at
once and for those that wait for a reply. -/

namespace PromptCanvas

/-- Nothing of the nodes, of their links and of the retired ids differs between two graphs. -/
structure Graph.Unmarked (g g' : Graph) : Prop where
  nodes : g'.nodes = g.nodes
  edges : g'.parentEdges = g.parentEdges
  children : g'.childLists = g.childLists
  retired : g'.retired = g.retired

theorem Graph.Unmarked.refl (g : Graph) : g.Unmarked g := ⟨rfl, rfl, rfl, rfl⟩

namespace Http

/-- The statuses of refusals. -/
def refusalStatuses : List Nat := [400, 404, 409, 422, 502]

/-- Why a reply with a verdict is not answered: there was no room for its trouble, or the message of its failure is
    torn. -/
inductive Lapses (verdict : Except Json.Container (Option Failure)) : Rejection → Prop where
  | overrun {container : Json.Container} (h : verdict = .error container) : Lapses verdict (.overrun container)
  | torn {failure : Failure} (h : verdict = .ok (some failure)) (htorn : failure.message.isWhole = false) :
      Lapses verdict (.unwritable .torn)

/-- An answer settles a request: it is one of success, or a refusal of a request that has left no mark. There is
    none only where a node of the graph cannot be told, since it is nested too deep or the message of its failure
    is torn, or where the reply lapses. -/
inductive Settles (unmarked : Prop) (graph : Graph) (lapses : Rejection → Prop) : Answer → Prop where
  | succeeded (body : Json) : Settles unmarked graph lapses (.ok ⟨200, body⟩)
  | refused {status : Nat} (body : Json) (hstatus : status ∈ refusalStatuses) (hunmarked : unmarked) :
      Settles unmarked graph lapses (.ok ⟨status, body⟩)
  | tooDeep {node : Node} (hnode : node ∈ graph.nodes) (hdeep : node.isTooDeep = true) :
      Settles unmarked graph lapses (.error .tooDeep)
  | torn {node : Node} (hnode : node ∈ graph.nodes) (htorn : node.IsTorn) :
      Settles unmarked graph lapses (.error (.unwritable .torn))
  | lapsed {r : Rejection} (h : lapses r) : Settles unmarked graph lapses (.error r)

/-- The answer of a request settles it when it is given: at once, or with any reply, in each studio that the request
    may then find. A request that waits leaves a mark when it comes in or when it is answered. Only a reply can
    lapse. -/
def SettlesIn (studio : Studio) (later : Studio → Prop) : Served Answer → Prop
  | .done after answer => Settles (studio.graph.Unmarked after.graph) after.graph (fun _ => False) answer
  | .waiting after errand answer => ∀ found, later found → ∀ (service : Service) (seen : List Graph),
      Settles
        (studio.graph.Unmarked after.graph ∧
          found.graph.Unmarked (found.resume service seen errand).2.graph)
        (found.resume service seen errand).2.graph (Lapses (errand.verdict service))
        (answer (found.resume service seen errand).1)

theorem SettlesIn.mono {studio : Studio} {later later' : Studio → Prop} {served : Served Answer}
    (h : SettlesIn studio later served) (hlater : ∀ found, later' found → later found) :
    SettlesIn studio later' served := by
  cases served with
  | done after answer => exact h
  | waiting after errand answer => exact fun found hfound => h found (hlater found hfound)

section

variable {unmarked : Prop} {graph : Graph} {lapses : Rejection → Prop}

end

/-! ## Parts of requests -/

section

variable {studio : Studio} {later : Studio → Prop}

end

/-! ## Replies -/

section

variable {unmarked : Prop} {graph : Graph} {verdict : Except Json.Container (Option Failure)}
  {looked : List RefusalCause}

end

/-! ## Requests -/

variable {studio : Studio} {id : NodeId} {body : Body}

end Http

end PromptCanvas
