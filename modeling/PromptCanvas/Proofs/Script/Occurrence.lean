import PromptCanvas.Proofs.Script.Scan

set_option autoImplicit false

/-! # Occurrences in a text

A grammar says which pieces of a text are which parts, given whether a word character stands before the piece.
A recogniser reads a grammar if it finds a part at the start of a text exactly where a piece of the grammar
stands there. Then no two pieces start at one place, and a scan finds the occurrences that are chosen from
left to right: each is the first that starts where the one before ends, or later. The induction is over what
is still to be scanned; that the text before it is done is a matter of positions only. -/

namespace PromptCanvas.Script

open Text

/-- Which pieces are which parts. -/
abbrev Grammar (α : Type) := (afterWord : Bool) → α → List Char → Prop

/-- A part and where in a text it stands. -/
structure Occurrence (α : Type) where
  start : Nat
  stop : Nat
  part : α

variable {α : Type} {recognise : Bool → List Char → Option (α × List Char)} {grammar : Grammar α}
variable {text : List Char} {start : Nat} {found found' : Occurrence α} {others others' : List (Occurrence α)}

/-- A piece of a text is a part. -/
def OccursIn (grammar : Grammar α) (text : List Char) (found : Occurrence α) : Prop :=
  ∃ before piece after, text = before ++ (piece ++ after) ∧ found.start = before.length ∧
    found.stop = before.length + piece.length ∧ grammar (endsInWord false before) found.part piece

/-- An occurrence that starts at a place or later, and no later than any other one. -/
structure IsFirst (grammar : Grammar α) (text : List Char) (start : Nat) (found : Occurrence α) : Prop where
  occurs : OccursIn grammar text found
  start_le : start ≤ found.start
  first : ∀ other, OccursIn grammar text other → start ≤ other.start → found.start ≤ other.start

/-- The occurrences that are chosen from left to right, each of them the first behind the one before. -/
inductive Chosen (grammar : Grammar α) (text : List Char) : (start : Nat) → List (Occurrence α) → Prop where
  | done {start : Nat} (hnone : ∀ found, OccursIn grammar text found → ¬ start ≤ found.start) :
      Chosen grammar text start []
  | next {start : Nat} {found : Occurrence α} {others : List (Occurrence α)}
      (hfirst : IsFirst grammar text start found) (hothers : Chosen grammar text found.stop others) :
      Chosen grammar text start (found :: others)

/-- A recogniser finds at the start of a text what the grammar has there. Pieces are not empty. -/
structure Recognises (recognise : Bool → List Char → Option (α × List Char)) (grammar : Grammar α) : Prop where
  iff : ∀ {afterWord cs part left}, recognise afterWord cs = some (part, left) ↔
    ∃ piece, cs = piece ++ left ∧ grammar afterWord part piece
  ne_nil : ∀ {afterWord part piece}, grammar afterWord part piece → piece ≠ []

/-! ## At most one occurrence at a place -/

/-- At each place starts at most one occurrence. -/
def Unambiguous (grammar : Grammar α) (text : List Char) : Prop :=
  ∀ found found', OccursIn grammar text found → OccursIn grammar text found' →
    found.start = found'.start → found = found'

/-- What starts at a place is found there, and ends where the recogniser goes on. -/
theorem OccursIn.recognised (h : Recognises recognise grammar) {before rest : List Char}
    (hfound : OccursIn grammar (before ++ rest) found) (hstart : found.start = before.length) :
    ∃ left, recognise (endsInWord false before) rest = some (found.part, left) ∧
      found.stop + left.length = (before ++ rest).length := by
  obtain ⟨before', piece, after, htext, hstart', hstop, hpart⟩ := hfound
  obtain ⟨rfl, rfl⟩ := List.append_inj htext (hstart.symm.trans hstart')
  refine ⟨after, h.iff.2 ⟨piece, rfl, hpart⟩, ?_⟩
  rw [hstop, List.length_append, List.length_append, Nat.add_assoc]

theorem OccursIn.exists_before (hfound : OccursIn grammar text found) :
    ∃ before rest, text = before ++ rest ∧ found.start = before.length := by
  obtain ⟨before, piece, after, htext, hstart, _, _⟩ := hfound
  exact ⟨before, piece ++ after, htext, hstart⟩

theorem Recognises.unambiguous (h : Recognises recognise grammar) (text : List Char) : Unambiguous grammar text := by
  intro found found' hfound hfound' hstart
  obtain ⟨before, rest, rfl, hbefore⟩ := hfound.exists_before
  obtain ⟨left, hread, hstop⟩ := hfound.recognised h hbefore
  obtain ⟨left', hread', hstop'⟩ := hfound'.recognised h (hstart.symm.trans hbefore)
  obtain ⟨hpart, rfl⟩ := Prod.mk.inj (Option.some.inj (hread.symm.trans hread'))
  have hends : found.stop = found'.stop := Nat.add_right_cancel (hstop.trans hstop'.symm)
  cases found
  cases found'
  cases hstart
  cases hpart
  cases hends
  rfl

theorem Chosen.unique (h : Unambiguous grammar text) (hothers : Chosen grammar text start others)
    (hothers' : Chosen grammar text start others') : others = others' := by
  induction hothers generalizing others' with
  | done hnone =>
      cases hothers' with
      | done => rfl
      | next hfirst _ => exact absurd hfirst.start_le (hnone _ hfirst.occurs)
  | next hfirst hrest ih =>
      cases hothers' with
      | done hnone => exact absurd hfirst.start_le (hnone _ hfirst.occurs)
      | next hfirst' hrest' =>
          have hstart := Nat.le_antisymm (hfirst.first _ hfirst'.occurs hfirst'.start_le)
            (hfirst'.first _ hfirst.occurs hfirst.start_le)
          obtain rfl := h _ _ hfirst.occurs hfirst'.occurs hstart
          rw [ih hrest']

/-! ## Scanning from left to right -/

theorem OccursIn.start_lt (h : Recognises recognise grammar) (hfound : OccursIn grammar text found) :
    found.start < text.length := by
  obtain ⟨before, piece, after, rfl, hstart, _, hpart⟩ := hfound
  have hpos := List.length_pos_iff.2 (h.ne_nil hpart)
  rw [hstart, List.length_append, List.length_append]
  omega

/-- A place where nothing starts makes no difference. -/
theorem Chosen.of_succ (hnone : ∀ found, OccursIn grammar text found → found.start ≠ start)
    (hothers : Chosen grammar text (start + 1) others) : Chosen grammar text start others := by
  have hlater : ∀ found, OccursIn grammar text found → start ≤ found.start → start + 1 ≤ found.start :=
    fun found hfound hle => Nat.lt_of_le_of_ne hle (hnone found hfound).symm
  cases hothers with
  | done hdone => exact .done fun found hfound hle => hdone found hfound (hlater found hfound hle)
  | next hfirst hrest =>
      refine .next ⟨hfirst.occurs, Nat.le_of_succ_le hfirst.start_le, fun other hother hle => ?_⟩ hrest
      exact hfirst.first other hother (hlater other hother hle)

/-- A scan goes on with the occurrences that are chosen behind what was found last. -/
theorem exists_chosen_scan (h : Recognises recognise grammar) (before rest : List Char) {skip : Nat}
    (hskip : skip ≤ rest.length) :
    ∃ others, Chosen grammar (before ++ rest) (before.length + skip) others ∧
      scan recognise skip (endsInWord false before) rest = others.map Occurrence.part := by
  induction rest generalizing before skip with
  | nil =>
      obtain rfl := Nat.le_zero.1 hskip
      refine ⟨[], .done fun found hfound hle => ?_, rfl⟩
      have hlt := hfound.start_lt h
      rw [List.append_nil] at hlt
      omega
  | cons c rest ih =>
      have hsplit : before ++ c :: rest = before ++ [c] ++ rest := List.append_cons before c rest
      have hlength : (before ++ [c]).length = before.length + 1 := List.length_append
      cases skip with
      | succ skip =>
          obtain ⟨others, hothers, hscan⟩ := ih (before ++ [c]) (Nat.le_of_succ_le_succ hskip)
          rw [← hsplit, hlength] at hothers
          refine ⟨others, ?_, ?_⟩
          · rw [Nat.add_comm skip 1, ← Nat.add_assoc]
            exact hothers
          · rw [← hscan, endsInWord_concat, scan]
      | zero =>
          cases hread : recognise (endsInWord false before) (c :: rest) with
          | none =>
              obtain ⟨others, hothers, hscan⟩ := ih (before ++ [c]) (Nat.zero_le rest.length)
              rw [← hsplit, hlength] at hothers
              refine ⟨others, hothers.of_succ fun found hfound hstart => ?_, ?_⟩
              · obtain ⟨left, hfinds, _⟩ := hfound.recognised h hstart
                rw [hread] at hfinds
                cases hfinds
              · rw [scan, hread, ← hscan, endsInWord_concat]
          | some read =>
              obtain ⟨part, left⟩ := read
              obtain ⟨piece, hpiece, hpart⟩ := h.iff.1 hread
              have hpos := List.length_pos_iff.2 (h.ne_nil hpart)
              have hlengths : rest.length + 1 = piece.length + left.length := by
                rw [← List.length_append, ← hpiece, List.length_cons]
              obtain ⟨others, hothers, hscan⟩ :=
                ih (before ++ [c]) (Nat.sub_le rest.length left.length)
              have hstop : (before ++ [c]).length + (rest.length - left.length)
                  = before.length + piece.length := by
                rw [hlength]
                omega
              rw [← hsplit, hstop] at hothers
              have hfirst : IsFirst grammar (before ++ c :: rest) before.length
                  ⟨before.length, before.length + piece.length, part⟩ :=
                ⟨⟨before, piece, left, by rw [hpiece], rfl, rfl, hpart⟩, Nat.le_refl _, fun _ _ hle => hle⟩
              refine ⟨_ :: others, .next hfirst hothers, ?_⟩
              rw [scan, hread, List.map_cons, ← hscan, endsInWord_concat]

/-- A scan of a whole text finds the parts whose occurrences are chosen from its start. -/
theorem scanAll_eq_iff (h : Recognises recognise grammar) {parts : List α} :
    parts = scanAll recognise text ↔
      ∃ chosen, Chosen grammar text 0 chosen ∧ parts = chosen.map Occurrence.part := by
  obtain ⟨chosen, hchosen, hscan⟩ := exists_chosen_scan h [] text (Nat.zero_le text.length)
  constructor
  · rintro rfl
    exact ⟨chosen, hchosen, hscan⟩
  · rintro ⟨chosen', hchosen', rfl⟩
    rw [hchosen'.unique (h.unambiguous text) hchosen]
    exact hscan.symm

theorem existsUnique_chosen (h : Recognises recognise grammar) (text : List Char) :
    ∃! chosen, Chosen grammar text 0 chosen := by
  obtain ⟨chosen, hchosen, _⟩ := exists_chosen_scan h [] text (Nat.zero_le text.length)
  exact ⟨chosen, hchosen, fun other hother => hother.unique (h.unambiguous text) hchosen⟩

end PromptCanvas.Script
