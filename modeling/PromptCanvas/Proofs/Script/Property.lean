import PromptCanvas.Proofs.Script.Scan

set_option autoImplicit false

/-! # The properties of a body

A property is a label, which may be missing, a colon and a quoted text. -/

namespace PromptCanvas.Script

open Text

variable {cs left rest : List Char} {afterWord : Bool}

/-- A label and the white space behind it, or nothing. -/
inductive Label : List Char → List Char → Prop where
  | missing : Label [] []
  | given {label space : List Char} (hlabel : Run label) (hspace : ∀ c ∈ space, isBlank c = true) :
      Label label (label ++ space)

theorem propertyText?_eq_some_iff {text : List Char} :
    propertyText? cs = some (text, left) ↔
      Inner '"' text ∧ ∃ space, (∀ c ∈ space, isBlank c = true) ∧
        cs = ':' :: (space ++ '"' :: (text ++ '"' :: left)) := by
  unfold propertyText?
  split
  · next after =>
      rw [quoted?_eq_some_iff]
      refine and_congr_right fun _ => ⟨fun h => ?_, ?_⟩
      · refine ⟨after.takeWhile isBlank, fun c hc => List.mem_takeWhile_imp hc, ?_⟩
        rw [← h]
        exact congrArg (':' :: ·) List.takeWhile_append_dropWhile.symm
      · rintro ⟨space, hspace, heq⟩
        obtain rfl := (List.cons.inj heq).2
        exact dropWhile_append_eq hspace (head?_cons_not (by decide))
  · next hne =>
      refine ⟨fun h => by simp at h, ?_⟩
      rintro ⟨_, space, _, rfl⟩
      exact absurd rfl (hne _)

theorem wordRun?_eq_none {mark : Char} (h : isWord mark = false) : wordRun? (mark :: rest) = none := by
  simp [wordRun?, h]

theorem property?_eq_some_iff {property : Property} :
    property? afterWord cs = some (property, left) ↔
      ∃ label front space text, Label label front ∧ (∀ c ∈ space, isBlank c = true) ∧ Inner '"' text ∧
        cs = front ++ ':' :: (space ++ '"' :: (text ++ '"' :: left)) ∧
        property = ⟨String.ofList label, String.ofList text⟩ := by
  constructor
  · intro h
    unfold property? at h
    split at h
    · next label after hrun =>
        obtain ⟨hlabel, rfl, _⟩ := wordRun?_eq_some_iff.1 hrun
        obtain ⟨⟨text, _⟩, htext, heq⟩ := Option.map_eq_some_iff.1 h
        obtain ⟨rfl, rfl⟩ := Prod.mk.inj heq
        obtain ⟨hinner, space, hspace, hsplit⟩ := propertyText?_eq_some_iff.1 htext
        refine ⟨label, label ++ after.takeWhile isBlank, space, text,
          .given hlabel fun c hc => List.mem_takeWhile_imp hc, hspace, hinner, ?_, rfl⟩
        rw [← hsplit, List.append_assoc]
        exact congrArg (label ++ ·) List.takeWhile_append_dropWhile.symm
    · next hrun =>
        obtain ⟨⟨text, _⟩, htext, heq⟩ := Option.map_eq_some_iff.1 h
        obtain ⟨rfl, rfl⟩ := Prod.mk.inj heq
        obtain ⟨hinner, space, hspace, rfl⟩ := propertyText?_eq_some_iff.1 htext
        exact ⟨[], [], space, text, .missing, hspace, hinner, rfl, rfl⟩
  · rintro ⟨label, front, space, text, hlabel, hspace, hinner, rfl, rfl⟩
    have htext : propertyText? (':' :: (space ++ '"' :: (text ++ '"' :: left))) = some (text, left) :=
      propertyText?_eq_some_iff.2 ⟨hinner, space, hspace, rfl⟩
    generalize space ++ '"' :: (text ++ '"' :: left) = after at htext ⊢
    cases hlabel with
    | missing =>
        have hrun : wordRun? (':' :: after) = none := wordRun?_eq_none (by decide)
        rw [List.nil_append]
        simp only [property?, hrun, htext, Option.map_some]
    | @given _ space' hlabel hspace' =>
        have hstop : ∀ c ∈ (space' ++ ':' :: after).head?, isWord c = false :=
          not_isWord_head?_blanks hspace' (by decide)
        have hrun : wordRun? (label ++ (space' ++ ':' :: after)) = some (label, space' ++ ':' :: after) :=
          wordRun?_eq_some_iff.2 ⟨hlabel, rfl, hstop⟩
        have hcolon : trimStart (space' ++ ':' :: after) = ':' :: after :=
          dropWhile_append_eq hspace' (head?_cons_not (by decide))
        rw [List.append_assoc]
        simp only [property?, hrun, hcolon, htext, Option.map_some]

theorem property?_eq_none {mark : Char} (hword : isWord mark = false) (hcolon : mark ≠ ':') :
    property? afterWord (mark :: rest) = none := by
  refine Option.eq_none_iff_forall_ne_some.2 fun ⟨property, left⟩ h => ?_
  obtain ⟨label, front, space, text, hlabel, _, _, heq, _⟩ := property?_eq_some_iff.1 h
  cases hlabel with
  | missing => exact hcolon (List.cons.inj heq).1
  | given hlabel _ =>
      obtain ⟨c, tail, rfl⟩ := List.exists_cons_of_ne_nil hlabel.1
      obtain rfl := (List.cons.inj heq).1
      rw [hlabel.2 _ List.mem_cons_self] at hword
      exact Bool.noConfusion hword

theorem properties_eq_nil (h : '"' ∉ cs) : properties cs = [] := by
  refine scan_eq_nil fun suffix hsuffix afterWord => ?_
  refine Option.eq_none_iff_forall_ne_some.2 fun ⟨property, left⟩ hfound => ?_
  obtain ⟨label, front, space, text, _, _, _, rfl, _⟩ := property?_eq_some_iff.1 hfound
  exact h (hsuffix.subset (by simp))

end PromptCanvas.Script
