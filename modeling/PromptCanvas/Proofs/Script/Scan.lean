import PromptCanvas.Proofs.Script.Frame

set_option autoImplicit false

/-! # Scanning a text piece by piece

A scan passes over a piece in which no part starts, and steps behind a part that it finds. What it knows
of the text before is whether that ends in a word character. -/

namespace PromptCanvas.Script

open Text

variable {α : Type} {recognise : Bool → List Char → Option (α × List Char)} {rest : List Char}

/-- Whether a word character precedes what follows a piece. -/
def endsInWord (afterWord : Bool) (piece : List Char) : Bool :=
  (piece.getLast?.map isWord).getD afterWord

theorem endsInWord_cons (afterWord : Bool) (c : Char) (piece : List Char) :
    endsInWord afterWord (c :: piece) = endsInWord (isWord c) piece := by
  unfold endsInWord
  rw [List.getLast?_cons]
  cases piece.getLast? <;> rfl

theorem endsInWord_concat (afterWord : Bool) (piece : List Char) (c : Char) :
    endsInWord afterWord (piece ++ [c]) = isWord c := by
  rw [endsInWord, List.getLast?_concat]
  rfl

theorem scan_skip (piece : List Char) (afterWord : Bool) :
    scan recognise piece.length afterWord (piece ++ rest)
      = scan recognise 0 (endsInWord afterWord piece) rest := by
  induction piece generalizing afterWord with
  | nil => rfl
  | cons c piece ih =>
      rw [endsInWord_cons, ← ih]
      rfl

/-- A part that is found is followed by what is found behind it. -/
theorem scan_part {piece : List Char} {afterWord : Bool} {part : α} (hne : piece ≠ [])
    (h : recognise afterWord (piece ++ rest) = some (part, rest)) :
    scan recognise 0 afterWord (piece ++ rest)
      = part :: scan recognise 0 (endsInWord afterWord piece) rest := by
  obtain ⟨c, piece, rfl⟩ := List.exists_cons_of_ne_nil hne
  rw [List.cons_append] at h ⊢
  rw [scan, h, endsInWord_cons, ← scan_skip]
  simp

theorem scan_idle {piece : List Char} {afterWord : Bool}
    (h : ∀ suffix, suffix ≠ [] → suffix <:+ piece → ∀ afterWord,
      recognise afterWord (suffix ++ rest) = none) :
    scan recognise 0 afterWord (piece ++ rest)
      = scan recognise 0 (endsInWord afterWord piece) rest := by
  induction piece generalizing afterWord with
  | nil => rfl
  | cons c piece ih =>
      have hnone := h (c :: piece) (List.cons_ne_nil _ _) (List.suffix_refl _) afterWord
      rw [List.cons_append] at hnone ⊢
      rw [scan, hnone, endsInWord_cons]
      exact ih fun suffix hne hsuffix => h suffix hne (hsuffix.trans (List.suffix_cons _ _))

theorem scan_eq_nil {cs : List Char} {afterWord : Bool}
    (h : ∀ suffix, suffix <:+ cs → ∀ afterWord, recognise afterWord suffix = none) :
    scan recognise 0 afterWord cs = [] := by
  have hidle : scan recognise 0 afterWord (cs ++ []) = scan recognise 0 (endsInWord afterWord cs) [] :=
    scan_idle fun suffix _ hsuffix after => (List.append_nil suffix).symm ▸ h suffix hsuffix after
  rw [List.append_nil] at hidle
  rw [hidle, scan]

/-! ## Where a block can start -/

/-- A text starts with a block that has a keyword. -/
def Opens (word : String) (cs : List Char) : Prop :=
  ∃ kind name body left, Framed word kind name body left cs

theorem opens_of_subject? {afterWord : Bool} {cs : List Char} {found : Subject × List Char}
    (h : subject? afterWord cs = some found) : Opens "create" cs := by
  obtain ⟨_, kind, name, body, hframed, _⟩ := subject?_eq_some_iff.1 h
  exact ⟨kind, some name, body, found.2, hframed⟩

theorem opens_of_setting? {afterWord : Bool} {cs : List Char} {found : Setting × List Char}
    (h : setting? afterWord cs = some found) : Opens "set" cs := by
  obtain ⟨_, kind, name, body, hframed, _⟩ := setting?_eq_some_iff.1 h
  exact ⟨kind, name, body, found.2, hframed⟩

/-- A word at the start of a block is its keyword. -/
theorem Opens.keyword {word : String} {piece : List Char} (h : Opens word (piece ++ rest))
    (hword : Run word.toList) (hpiece : ∀ c ∈ piece, isWord c = true)
    (hrest : ∀ c ∈ rest.head?, isWord c = false) :
    piece = word.toList ∧ ∃ gap kind more, Gap gap ∧ Run kind ∧ rest = gap ++ (kind ++ more) := by
  obtain ⟨kind, name, body, left, hframed⟩ := h
  generalize htext : piece ++ rest = text at hframed
  cases hframed with
  | intro hgap hkind htitle hspace hbody =>
      obtain ⟨rfl, rfl⟩ := span_unique htext hpiece hrest hword.2 (hgap.not_isWord_head? _)
      exact ⟨rfl, _, kind, _, hgap, hkind, rfl⟩

end PromptCanvas.Script
