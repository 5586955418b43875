import PromptCanvas.Json.Measure
import PromptCanvas.Validation.Value

set_option autoImplicit false

/-! # What can be sent back

Whether fields give only what an answer can tell: finite numbers that are not too long, and whole texts. A position
takes texts for numbers as well, so its texts count too. -/

namespace PromptCanvas.Json

/-- Whether a value is a finite number, if it can be read as a number. -/
def readsFinite (value : Json) : Bool :=
  match Value.real value with
  | .ok x => x.isFinite
  | .faulty _ => true

/-- Whether a value places a node at finite numbers, as far as they can be read. -/
def placesFinite : Json → Bool
  | .obj entries => entries.all fun entry => entry.2.readsFinite
  | _ => true

/-- Whether fields can be sent back, and also the numbers that a position gives as texts. -/
def givesSendable (fields : Fields) : Bool :=
  (obj fields).isSendable && fields.all fun entry => entry.1 != "position" || entry.2.placesFinite

end PromptCanvas.Json
