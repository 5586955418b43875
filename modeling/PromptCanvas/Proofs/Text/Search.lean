import Mathlib.Data.List.Infix
import PromptCanvas.Text.Search

set_option autoImplicit false

/-! # Where a text is cut

A text is cut at the first occurrence of a mark: the mark does not occur before its end, that is, in what is
before it with all but the last of its characters. A mark that cannot overlap itself is therefore found where
it was put, unless it occurs before. Separators split a text piece by piece, and joined texts follow each
other. -/

namespace PromptCanvas.Text

section

variable {α : Type} [DecidableEq α] {mark cs before rest : List α}

theorem after?_eq_some_iff {lead : List α} :
    after? lead cs = some rest ↔ cs = lead ++ rest := by
  induction lead generalizing cs with
  | nil => simp [after?]
  | cons l lead ih =>
      cases cs with
      | nil => simp [after?]
      | cons c cs =>
          simp only [after?, List.cons_append, List.cons.injEq]
          split
          · next h => simp [h, ih]
          · next h => simp [Ne.symm h]

theorem after?_eq_none_iff {lead : List α} :
    after? lead cs = none ↔ ¬ lead <+: cs := by
  rw [Option.eq_none_iff_forall_ne_some]
  constructor
  · rintro h ⟨rest, rfl⟩
    exact h rest (after?_eq_some_iff.2 rfl)
  · intro h rest hrest
    exact h ⟨rest, (after?_eq_some_iff.1 hrest).symm⟩

/-! ## The first occurrence -/

omit [DecidableEq α] in
theorem not_infix_dropLast (hmark : mark ≠ []) : ¬ mark <:+: mark.dropLast := by
  intro h
  have hle := h.length_le
  have hpos := List.length_pos_iff.2 hmark
  rw [List.length_dropLast] at hle
  omega

omit [DecidableEq α] in
/-- A mark at the start of a text that goes on with the mark later is there before the end of that one. -/
theorem prefix_append_dropLast {c : α} (h : mark <+: c :: before ++ (mark ++ rest)) :
    mark <+: c :: before ++ mark.dropLast := by
  refine List.prefix_of_prefix_length_le h ?_ ?_
  · exact (List.prefix_append_right_inj _).2 (mark.dropLast_prefix.trans (List.prefix_append _ rest))
  · rw [List.length_append, List.length_cons, List.length_dropLast]
    omega

theorem cutAt?_eq_some_iff (hmark : mark ≠ []) :
    cutAt? mark cs = some (before, rest) ↔
      cs = before ++ (mark ++ rest) ∧ ¬ mark <:+: before ++ mark.dropLast := by
  induction cs generalizing before with
  | nil => simp [cutAt?, hmark]
  | cons c cs ih =>
      unfold cutAt?
      split
      · next after hafter =>
          have hstart := after?_eq_some_iff.1 hafter
          rw [Option.some.injEq, Prod.mk.injEq]
          constructor
          · rintro ⟨rfl, rfl⟩
            exact ⟨hstart, not_infix_dropLast hmark⟩
          · rintro ⟨hcs, hfirst⟩
            cases before with
            | nil => exact ⟨rfl, List.append_cancel_left (hstart.symm.trans hcs)⟩
            | cons b before =>
                -- the mark at the start comes before the one that is cut at
                have hleads : mark <+: b :: before ++ (mark ++ rest) := ⟨after, by rw [← hcs, hstart]⟩
                exact absurd (prefix_append_dropLast hleads).isInfix hfirst
      · next hnone =>
          have hstart : ¬ mark <+: c :: cs := after?_eq_none_iff.1 hnone
          cases before with
          | nil =>
              refine iff_of_false (by simp) ?_
              rintro ⟨hcs, _⟩
              exact hstart ⟨rest, hcs.symm⟩
          | cons b before =>
              simp only [Option.map_eq_some_iff, Prod.exists, Prod.mk.injEq, List.cons.injEq,
                List.cons_append]
              constructor
              · rintro ⟨first, last, hcut, ⟨rfl, rfl⟩, rfl⟩
                obtain ⟨rfl, hfirst⟩ := ih.1 hcut
                refine ⟨⟨rfl, rfl⟩, fun hoccurs => ?_⟩
                rcases List.infix_cons_iff.1 hoccurs with hleads | hinner
                · refine hstart (hleads.trans ((List.prefix_append_right_inj (c :: first)).2 ?_))
                  exact mark.dropLast_prefix.trans (List.prefix_append mark last)
                · exact hfirst hinner
              · rintro ⟨⟨rfl, rfl⟩, hfirst⟩
                exact ⟨before, rest, ih.2 ⟨rfl, fun hinner => hfirst (List.infix_cons hinner)⟩,
                  ⟨rfl, rfl⟩, rfl⟩

theorem cutAt?_eq_none_iff : cutAt? mark cs = none ↔ ¬ mark <:+: cs := by
  induction cs with
  | nil => simp [cutAt?]
  | cons c cs ih =>
      unfold cutAt?
      rw [List.infix_cons_iff, not_or]
      split
      · next after hafter =>
          have hleads : mark <+: c :: cs := ⟨after, (after?_eq_some_iff.1 hafter).symm⟩
          exact iff_of_false (by simp) fun hnone => hnone.1 hleads
      · next hnone =>
          rw [Option.map_eq_none_iff, ih]
          exact (and_iff_right (after?_eq_none_iff.1 hnone)).symm

theorem occurs_iff : occurs mark cs = true ↔ mark <:+: cs := by
  rw [occurs, Option.isSome_iff_ne_none, ne_eq, cutAt?_eq_none_iff, not_not]

theorem not_infix_of_cutAt? (hmark : mark ≠ []) (h : cutAt? mark cs = some (before, rest)) :
    ¬ mark <:+: before := fun hoccurs =>
  ((cutAt?_eq_some_iff hmark).1 h).2 (hoccurs.trans (List.prefix_append _ _).isInfix)

theorem cutAt?_append (hmark : mark ≠ []) (h : cutAt? mark cs = some (before, rest)) (later : List α) :
    cutAt? mark (cs ++ later) = some (before, rest ++ later) := by
  obtain ⟨rfl, hfirst⟩ := (cutAt?_eq_some_iff hmark).1 h
  exact (cutAt?_eq_some_iff hmark).2 ⟨by simp only [List.append_assoc], hfirst⟩

/-! ## Marks that do not overlap themselves -/

omit [DecidableEq α] in
/-- A mark whose first character does not come again has no occurrence that ends in another one. -/
theorem infix_of_infix_append_dropLast {c : α} {tail : List α} (hmark : mark = c :: tail)
    (hown : c ∉ tail) (h : mark <:+: before ++ mark.dropLast) : mark <:+: before := by
  induction before with
  | nil => exact absurd h (not_infix_dropLast (by simp [hmark]))
  | cons b before ih =>
      rcases List.infix_cons_iff.1 h with ⟨after, hafter⟩ | hinner
      · have hsplit : tail ++ after = before ++ mark.dropLast ∧ c = b := by
          rw [hmark] at hafter ⊢
          exact ⟨(List.cons.inj hafter).2, (List.cons.inj hafter).1⟩
        obtain ⟨hsplit, rfl⟩ := hsplit
        rcases List.append_eq_append_iff.1 hsplit with ⟨inner, hinner, _⟩ | ⟨inner, hinner, hlast⟩
        · exact ⟨[], inner, by rw [hmark, hinner]; rfl⟩
        · cases inner with
          | nil => exact ⟨[], [], by rw [hmark, hinner]; simp⟩
          | cons d inner =>
              -- the mark would start anew inside of itself
              have htail : tail ≠ [] := by simp [hinner]
              rw [hmark, List.dropLast_cons_of_ne_nil htail, List.cons_append, List.cons.injEq] at hlast
              rw [hinner, hlast.1] at hown
              exact absurd (List.mem_append_right _ List.mem_cons_self) hown
      · exact List.infix_cons (ih hinner)

/-- A mark is found where it was put, unless it occurs before. -/
theorem cutAt?_append_mark {c : α} {tail : List α} (hmark : mark = c :: tail) (hown : c ∉ tail)
    (h : ¬ mark <:+: before) : cutAt? mark (before ++ (mark ++ rest)) = some (before, rest) :=
  (cutAt?_eq_some_iff (by simp [hmark])).2
    ⟨rfl, fun hoccurs => h (infix_of_infix_append_dropLast hmark hown hoccurs)⟩

end

variable {mark cs before rest : List Char}

/-- What holds no mark stands before it or behind it. -/
theorem infix_append_cons_iff {c : Char} {part : List Char} (h : c ∉ part) :
    part <:+: before ++ c :: rest ↔ part <:+: before ∨ part <:+: rest := by
  have hshort : ∀ {start : List Char}, start <+: c :: rest → c ∉ start → start = [] := by
    intro start hstart hnot
    cases start with
    | nil => rfl
    | cons d start => exact absurd (List.cons_prefix_cons.1 hstart).1.symm (List.ne_of_not_mem_cons hnot)
  constructor
  · intro hpart
    rcases List.infix_append_iff.1 hpart with hbefore | hrest | ⟨front, back, rfl, hfront, hback⟩
    · exact Or.inl hbefore
    · rcases List.infix_cons_iff.1 hrest with hstart | hrest
      · rw [hshort hstart h]
        exact Or.inl List.nil_infix
      · exact Or.inr hrest
    · rw [hshort hback fun hmem => h (List.mem_append_right front hmem), List.append_nil]
      exact Or.inl hfront.isInfix
  · rintro (hbefore | hrest)
    · exact hbefore.trans (List.prefix_append _ _).isInfix
    · exact (hrest.trans (List.suffix_cons c rest).isInfix).trans (List.suffix_append _ _).isInfix

/-! ## Pieces between separators -/

section

variable {separator c : Char} {piece : List Char} {pieces : List (List Char)}

theorem exists_splitOn_eq_cons (separator : Char) (cs : List Char) :
    ∃ piece pieces, cs.splitOn separator = piece :: pieces :=
  List.exists_cons_of_ne_nil (List.splitOn_ne_nil separator cs)

theorem splitOn_cons_self (separator : Char) (cs : List Char) :
    (separator :: cs).splitOn separator = [] :: cs.splitOn separator := by
  rw [List.splitOn_cons_eq_if_modifyHead, if_pos (beq_self_eq_true separator)]

theorem splitOn_cons_of_ne (h : cs.splitOn separator = piece :: pieces) (hne : c ≠ separator) :
    (c :: cs).splitOn separator = (c :: piece) :: pieces := by
  rw [List.splitOn_cons_eq_if_modifyHead, if_neg (mt beq_iff_eq.1 hne), h, List.modifyHead_cons]

/-- A line starts with what the text starts with, unless that is a separator. -/
theorem head?_splitOn (h : cs.splitOn separator = piece :: pieces) (hne : c ≠ separator) :
    piece.head? = some c ↔ cs.head? = some c := by
  cases cs with
  | nil =>
      obtain ⟨rfl, _⟩ := List.cons.inj h
      rfl
  | cons d cs =>
      obtain ⟨piece', pieces', hsplit⟩ := exists_splitOn_eq_cons separator cs
      by_cases hd : d = separator
      · rw [hd, splitOn_cons_self] at h
        obtain ⟨rfl, _⟩ := List.cons.inj h
        simp [hd, Ne.symm hne]
      · rw [splitOn_cons_of_ne hsplit hd] at h
        obtain ⟨rfl, _⟩ := List.cons.inj h
        rfl

theorem not_mem_of_mem_splitOn (h : piece ∈ cs.splitOn separator) : separator ∉ piece := by
  induction cs generalizing piece with
  | nil =>
      rw [List.mem_singleton.1 h]
      exact List.not_mem_nil
  | cons c cs ih =>
      obtain ⟨first, pieces, hsplit⟩ := exists_splitOn_eq_cons separator cs
      rw [hsplit] at ih
      by_cases hc : c = separator
      · rw [hc, splitOn_cons_self, hsplit] at h
        rcases List.mem_cons.1 h with rfl | h
        · exact List.not_mem_nil
        · exact ih h
      · rw [splitOn_cons_of_ne hsplit hc] at h
        rcases List.mem_cons.1 h with rfl | h
        · exact List.not_mem_cons_of_ne_of_not_mem (Ne.symm hc) (ih List.mem_cons_self)
        · exact ih (List.mem_cons_of_mem first h)

theorem length_splitOn (separator : Char) (cs : List Char) :
    (cs.splitOn separator).length = cs.count separator + 1 := by
  induction cs with
  | nil => rfl
  | cons c cs ih =>
      by_cases hc : c = separator
      · rw [hc, splitOn_cons_self, List.length_cons, ih, List.count_cons_self]
      · obtain ⟨piece, pieces, hsplit⟩ := exists_splitOn_eq_cons separator cs
        rw [splitOn_cons_of_ne hsplit hc, List.count_cons_of_ne hc, ← ih, hsplit, List.length_cons,
          List.length_cons]

end

/-! ## Replaced characters -/

theorem replaceAll_cons_self (mark : Char) (fill cs : List Char) :
    replaceAll [mark] fill (mark :: cs) = fill ++ replaceAll [mark] fill cs := by
  simp [replaceAll, replaceFrom, after?]

theorem replaceAll_cons_of_ne {mark c : Char} (h : c ≠ mark) (fill cs : List Char) :
    replaceAll [mark] fill (c :: cs) = c :: replaceAll [mark] fill cs := by
  simp [replaceAll, replaceFrom, after?, Ne.symm h]

/-! ## Joined texts -/

theorem toList_intercalate_cons (s separator : String) (strings : List String) :
    (separator.intercalate (s :: strings)).toList
      = s.toList ++ strings.flatMap fun t => separator.toList ++ t.toList := by
  induction strings generalizing s with
  | nil => simp
  | cons t strings ih =>
      rw [String.intercalate_cons_cons, String.toList_append, ih, String.toList_append, List.flatMap_cons]
      simp only [List.append_assoc]

end PromptCanvas.Text
