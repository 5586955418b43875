set_option autoImplicit false

/-! # Finding, cutting and replacing texts

Searches for one text inside another, from the left. Every function walks its input once and is stated on
lists, of characters or of symbols; the strings of the other modules pass through `String.toList`. -/

namespace PromptCanvas.Text

variable {α : Type} [DecidableEq α]

/-- What follows `lead` in a text that starts with it. -/
def after? : List α → List α → Option (List α)
  | [], cs => some cs
  | _ :: _, [] => none
  | l :: lead, c :: cs => if l = c then after? lead cs else none

/-- The text before and after the first occurrence of `mark`. -/
def cutAt? (mark : List α) : List α → Option (List α × List α)
  | [] => if mark = [] then some ([], []) else none
  | c :: cs =>
      match after? mark (c :: cs) with
      | some rest => some ([], rest)
      | none => (cutAt? mark cs).map fun parts => (c :: parts.1, parts.2)

/-- Whether `mark` occurs in the text. -/
def occurs (mark cs : List α) : Bool := (cutAt? mark cs).isSome

/-- Every occurrence of `mark`, found from the left and not overlapping, becomes `fill`; `skip`
    characters are still part of the occurrence found last. -/
def replaceFrom (mark fill : List Char) : Nat → List Char → List Char
  | _, [] => []
  | skip + 1, _ :: cs => replaceFrom mark fill skip cs
  | 0, c :: cs =>
      match after? mark (c :: cs) with
      | some _ => fill ++ replaceFrom mark fill (mark.length - 1) cs
      | none => c :: replaceFrom mark fill 0 cs

/-- Every occurrence of a non-empty `mark` becomes `fill`. -/
def replaceAll (mark fill cs : List Char) : List Char := replaceFrom mark fill 0 cs

end PromptCanvas.Text
