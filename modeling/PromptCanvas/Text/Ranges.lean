set_option autoImplicit false

/-! # Ranges of code points

A class of characters is given as a list of inclusive ranges of code points. Membership is a plain
search, so a fact about a class is a fact about a finite list. -/

namespace PromptCanvas.Text

/-- Inclusive ranges of code points. -/
abbrev Ranges := List (Nat × Nat)

/-- Whether one of the ranges holds the character. -/
def Ranges.has (ranges : Ranges) (c : Char) : Bool :=
  ranges.any fun range => range.1 ≤ c.toNat && c.toNat ≤ range.2

end PromptCanvas.Text
