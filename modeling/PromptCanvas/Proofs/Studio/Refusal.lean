import PromptCanvas.Proofs.Studio.Retention

set_option autoImplicit false

/-! # Refusals

The causes for which operations are refused. A run that is asked for is refused only before it has begun:
once it has, it never fails to answer. -/

namespace PromptCanvas

namespace Graph

variable {g : Graph} {r : Rejection}

end Graph

/-! ## Runs -/

namespace Studio

variable {studio : Studio} {id : NodeId} {r : Rejection}

end Studio

end PromptCanvas
