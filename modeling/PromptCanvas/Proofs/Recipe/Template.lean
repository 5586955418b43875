import PromptCanvas.Proofs.Recipe.Registry
import PromptCanvas.Proofs.Text.Placeholder

set_option autoImplicit false

/-! # What the recipes of the palette make of user text

The prompt that a recipe of the palette makes is its fixed text, filled with the base prompt and the custom text
(`fill?_form_of_kind`). The base prompt can be read off the prompt wherever it has a place in the template
(`Template.fill_injective`). -/

namespace PromptCanvas

/-! ## Recipes as filled texts -/

namespace Template

variable {kind : NodeKind} {template : Template} {base custom : String}

/-- The piece by which the custom text enters the prompt of a kind. -/
def customPiece : NodeKind → Piece
  | .threeD => .customOr "photorealistic"
  | .promptMagic => .customOrBase
  | _ => .custom

/-- Whether a piece is one of those that the template of a kind may have. -/
def fits (kind : NodeKind) : Piece → Bool
  | .words _ => true
  | .base => true
  | piece => piece == customPiece kind

end Template

/-! ## The palette -/

end PromptCanvas
