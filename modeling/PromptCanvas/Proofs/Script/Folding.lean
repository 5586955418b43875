import PromptCanvas.Proofs.Script.Layout
import PromptCanvas.Proofs.Script.Margin

set_option autoImplicit false

/-! # Laid out scripts on one line

Flattening a laid out script leaves its tokens as they are and puts the white space between them on one line,
so that a flattened layout is a layout of the same blocks. White space that is there stays there. -/

namespace PromptCanvas.Script

open Text

variable {rest : List Char}

/-! ## Pieces -/

/-- Flattening turns one piece into another. -/
def Folds (piece piece' : List Char) : Prop := ∀ rest, flatten (piece ++ rest) = piece' ++ flatten rest

theorem Folds.append {piece piece' later later' : List Char} (h : Folds piece piece')
    (h' : Folds later later') : Folds (piece ++ later) (piece' ++ later') := by
  intro rest
  rw [List.append_assoc, h, h', List.append_assoc]

/-! ## Tokens -/

/-- White space on one line. -/
def Space.fold (space : Space) : Space :=
  ⟨foldBreaks false space.chars, Blank.foldBreaks space.blank false⟩

theorem foldBreaks_append {cs : List Char} (h : ∀ c ∈ rest.head?, isBreak c = false) (folding : Bool) :
    foldBreaks folding (cs ++ rest) = foldBreaks folding cs ++ foldBreaks false rest := by
  induction cs generalizing folding with
  | nil =>
      cases rest with
      | nil => cases folding <;> rfl
      | cons c rest => simp [foldBreaks, h c rfl]
  | cons c cs ih =>
      simp only [List.cons_append, foldBreaks]
      split
      · split
        · exact ih true
        · exact congrArg (' ' :: ·) (ih true)
      · exact congrArg (c :: ·) (ih false)

/-- White space stays white space, if neither a line break nor a comment follows. -/
theorem Space.flatten_append (space : Space) (h : ∀ c ∈ rest.head?, isBreak c = false ∧ c ≠ '/') :
    flatten (space.chars ++ rest) = space.fold.chars ++ flatten rest := by
  unfold flatten
  rw [cutComments_blank_append space.blank]
  refine foldBreaks_append ?_ false
  cases rest with
  | nil => simp [cutComments]
  | cons c rest =>
      obtain ⟨hbreak, hslash⟩ := h c rfl
      rw [cutComments, if_neg fun hcomment => hslash hcomment.1]
      simpa using hbreak

theorem Space.fold_eq_nil_iff (space : Space) : space.fold.chars = [] ↔ space.chars = [] := by
  show foldBreaks false space.chars = [] ↔ _
  cases space.chars with
  | nil => simp [foldBreaks]
  | cons c cs =>
      rw [foldBreaks]
      split <;> simp

theorem Space.folds (space : Space) {token : List Char} (hsteady : Steady token) {c : Char}
    (hhead : token.head? = some c) (hbreak : isBreak c = false) (hslash : c ≠ '/') :
    Folds (space.chars ++ token) (space.fold.chars ++ token) := by
  intro rest
  have hstart : ∀ d ∈ (token ++ rest).head?, isBreak d = false ∧ d ≠ '/' := by
    intro d hd
    rw [List.head?_append, hhead] at hd
    obtain rfl := Option.some.inj hd
    exact ⟨hbreak, hslash⟩
  rw [List.append_assoc, space.flatten_append hstart, hsteady, List.append_assoc]

theorem Space.folds_mark (space : Space) (mark : Char) (hbreak : isBreak mark = false) (hslash : mark ≠ '/') :
    Folds (space.chars ++ [mark]) (space.fold.chars ++ [mark]) :=
  space.folds (steady_plain (by simpa using hbreak) (by simpa using hslash.symm)) rfl hbreak hslash

theorem Space.folds_word (space : Space) (w : Word) :
    Folds (space.chars ++ w.text.toList) (space.fold.chars ++ w.text.toList) := by
  obtain ⟨c, tail, htext⟩ := List.exists_cons_of_ne_nil w.run.1
  have hc : c ∈ w.text.toList := by
    rw [htext]
    exact List.mem_cons_self
  have hhead : w.text.toList.head? = some c := by
    rw [htext]
    rfl
  refine space.folds w.steady hhead (w.not_isBreak c hc) ?_
  rintro rfl
  exact w.not_mem (by decide) hc

theorem Space.folds_phrase (space : Space) (phrase : Phrase) :
    Folds (space.chars ++ '"' :: (phrase.text.toList ++ ['"']))
      (space.fold.chars ++ '"' :: (phrase.text.toList ++ ['"'])) := by
  have hquote : Steady ['"'] := steady_plain (by simp [isBreak]) (by decide)
  exact space.folds (hquote.append phrase.steady) rfl (by decide) (by decide)

/-! ## Blocks -/

/-- An entry with its white space on one line. -/
def LaidEntry.fold (laid : LaidEntry) : LaidEntry :=
  ⟨laid.entry, laid.beforeLabel.fold, laid.beforeColon.fold, laid.beforeText.fold,
    laid.beforeSemicolon.fold⟩

theorem LaidEntry.folds (laid : LaidEntry) : Folds laid.chars laid.fold.chars := by
  have hlabel := laid.beforeLabel.folds_word laid.entry.label
  have hcolon := laid.beforeColon.folds_mark ':' (by decide) (by decide)
  have htext := laid.beforeText.folds_phrase laid.entry.text
  have hsemicolon := laid.beforeSemicolon.folds_mark ';' (by decide) (by decide)
  simpa [LaidEntry.chars, LaidEntry.fold] using ((hlabel.append hcolon).append htext).append hsemicolon

namespace OpenBlock

/-- An opened block with its white space on one line. -/
def fold (laid : OpenBlock) : OpenBlock where
  heading := laid.heading
  beforeKeyword := laid.beforeKeyword.fold
  beforeKind := laid.beforeKind.fold
  beforeName := laid.beforeName.fold
  beforeBrace := laid.beforeBrace.fold
  entries := laid.entries.map LaidEntry.fold
  apart := mt laid.beforeKind.fold_eq_nil_iff.1 laid.apart

theorem folds (laid : OpenBlock) : Folds laid.chars laid.fold.chars := by
  have hkeyword : Folds (laid.beforeKeyword.chars ++ laid.heading.keyword.toList)
      (laid.beforeKeyword.fold.chars ++ laid.heading.keyword.toList) :=
    laid.beforeKeyword.folds_word laid.heading.word
  have hkind := laid.beforeKind.folds_word laid.heading.kind
  have htitle : Folds laid.titleChars laid.fold.titleChars := by
    intro rest
    cases hname : laid.heading.name? with
    | none => rw [laid.titleChars_append_of_none hname, laid.fold.titleChars_append_of_none hname]
    | some name =>
        rw [laid.titleChars_append_of_some hname, laid.fold.titleChars_append_of_some hname]
        have hphrase := laid.beforeName.folds_phrase name rest
        simpa [fold] using hphrase
  have hbrace := laid.beforeBrace.folds_mark '{' (by decide) (by decide)
  have hbody : Folds laid.bodyChars laid.fold.bodyChars := by
    unfold bodyChars fold
    induction laid.entries with
    | nil => exact steady_nil
    | cons entry entries ih => exact entry.folds.append ih
  simpa [chars, headChars, fold] using
    (((hkeyword.append hkind).append htitle).append hbrace).append hbody

theorem titled_fold (laid : OpenBlock) : laid.fold.titled = laid.titled := by
  have hnil : laid.beforeName.fold.chars.isEmpty = laid.beforeName.chars.isEmpty := by
    rw [Bool.eq_iff_iff, List.isEmpty_iff, List.isEmpty_iff, Space.fold_eq_nil_iff]
  unfold titled
  rw [← hnil]
  rfl

theorem properties_fold (laid : OpenBlock) : laid.fold.properties = laid.properties := by
  simp [properties, fold, LaidEntry.fold]

end OpenBlock

namespace LaidBlock

/-- A block with its white space on one line. -/
def fold (laid : LaidBlock) : LaidBlock := { laid.toOpenBlock.fold with beforeEnd := laid.beforeEnd.fold }

theorem folds (laid : LaidBlock) : Folds laid.chars laid.fold.chars := by
  have hend := laid.beforeEnd.folds_mark '}' (by decide) (by decide)
  simpa [chars, innerChars, fold] using laid.toOpenBlock.folds.append hend

theorem legible_fold (laid : LaidBlock) : laid.fold.legible = laid.legible := by
  have htitled : laid.fold.titled = laid.titled := laid.toOpenBlock.titled_fold
  have hend : laid.beforeEnd.fold.chars.isEmpty = laid.beforeEnd.chars.isEmpty := by
    rw [Bool.eq_iff_iff, List.isEmpty_iff, List.isEmpty_iff, Space.fold_eq_nil_iff]
  have hfilled : laid.fold.filled = laid.filled := by
    unfold filled
    rw [← hend]
    simp [fold, OpenBlock.fold]
  rw [legible, legible, htitled, hfilled]

end LaidBlock

/-! ## Documents -/

theorem folds_document (document : List LaidBlock) :
    Folds (document.flatMap LaidBlock.chars) ((document.map LaidBlock.fold).flatMap LaidBlock.chars) := by
  induction document with
  | nil => exact steady_nil
  | cons laid document ih => exact laid.folds.append ih

theorem Space.flatten (space : Space) : Script.flatten space.chars = space.fold.chars := by
  have hend : Script.flatten (space.chars ++ []) = space.fold.chars ++ Script.flatten [] :=
    space.flatten_append (by simp)
  rw [List.append_nil] at hend
  exact hend.trans (List.append_nil _)

/-- A flattened layout is the layout with all white space on one line. -/
theorem flatten_layOut (document : List LaidBlock) (atEnd : Space) :
    flatten (layOut document atEnd).toList
      = (document.map LaidBlock.fold).flatMap LaidBlock.chars ++ atEnd.fold.chars := by
  rw [layOut, String.toList_ofList, folds_document, Space.flatten]

end PromptCanvas.Script
