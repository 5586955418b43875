import PromptCanvas.Proofs.Http.Asked
import PromptCanvas.Proofs.Validation.Sendable

set_option autoImplicit false

/-! # Bodies that can be sent back

Where a body gives only what can be sent back, the faults for which it is refused can be answered, and the operation
that its request asks for is given nothing else either. -/

namespace PromptCanvas.Http

open Checked Value

variable {α : Type} {body : Body} {refusal : BodyRefusal}

/-! ## Refused bodies -/

/-- What the faults tell of for which a body is refused can be sent back. -/
def BodyRefusal.TellsSendable : BodyRefusal → Prop
  | .faulty faults => ∀ fault ∈ faults, fault.given.isSendable = true
  | .unreadable => True

section

variable {fields : Json.Fields} (h : (Json.obj fields).isSendable = true)
include h

end

/-! ## Operations that are asked for -/

end PromptCanvas.Http
