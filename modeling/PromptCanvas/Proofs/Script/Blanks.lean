import Mathlib.Data.List.Forall2
import PromptCanvas.Proofs.Script.Margin
import PromptCanvas.Script.Prompt

set_option autoImplicit false

/-! # Blank values

A blank value between two commas leaves no trace in a prompt, because of the commas around it one is kept. So
blank values can be left out of an outline where a comma stands on either side of them: a group of details must
neither start nor end with one, nor must the subject, unless something follows it. -/

namespace PromptCanvas.Script

open Text

/-! ## Leaving blanks out -/

/-- The texts that are not blank. -/
def solid (texts : List String) : List String := texts.filter fun text => !blank text

theorem solid_cons_of_blank {text : String} (h : blank text = true) (texts : List String) :
    solid (text :: texts) = solid texts := List.filter_cons_of_neg (by simpa using h)

theorem solid_cons {text : String} (h : blank text = false) (texts : List String) :
    solid (text :: texts) = text :: solid texts := List.filter_cons_of_pos (by simpa using h)

/-- The properties without those whose text is blank. -/
def withoutBlanks (properties : List Property) : List Property := properties.filter fun property =>
  !blank property.text

/-- The group without blank values. -/
def Group.withoutBlanks (group : Group) : Group :=
  { group with properties := Script.withoutBlanks group.properties }

/-- The subject without blank values. -/
def Subject.withoutBlanks (subject : Subject) : Subject :=
  { subject with properties := Script.withoutBlanks subject.properties }

/-- The outline without blank values. -/
def Outline.withoutBlanks (outline : Outline) : Outline where
  subject := outline.subject.map Subject.withoutBlanks
  scene := outline.scene.withoutBlanks
  style := outline.style.withoutBlanks
  camera := outline.camera.withoutBlanks
  palette := outline.palette.withoutBlanks
  ignoredSubjects := outline.ignoredSubjects

theorem map_text_withoutBlanks (properties : List Property) :
    (withoutBlanks properties).map Property.text = solid (properties.map Property.text) := by
  unfold withoutBlanks solid
  rw [List.filter_map]
  rfl

theorem Subject.values_withoutBlanks (subject : Subject) :
    subject.withoutBlanks.values = solid subject.values :=
  map_text_withoutBlanks _

theorem Outline.group_withoutBlanks (outline : Outline) (part : Part) :
    outline.withoutBlanks.group part = (outline.group part).withoutBlanks := by
  cases part <;> rfl

theorem Outline.values_withoutBlanks (outline : Outline) (part : Part) :
    (outline.withoutBlanks.group part).values = solid (outline.group part).values := by
  rw [group_withoutBlanks]
  exact map_text_withoutBlanks _

/-! ## Texts that folding does not tell apart -/

/-- Folding commas does not tell two texts apart, wherever they stand. -/
def Alike (s t : List Char) : Prop :=
  ∀ folding before after,
    foldCommas folding (before ++ (s ++ after)) = foldCommas folding (before ++ (t ++ after))

variable {s t s' t' : List Char}

theorem Alike.refl (s : List Char) : Alike s s := fun _ _ _ => rfl

theorem Alike.trans (h : Alike s t) (h' : Alike t t') : Alike s t' := fun folding before after =>
  (h folding before after).trans (h' folding before after)

theorem Alike.append (h : Alike s t) (h' : Alike s' t') : Alike (s ++ s') (t ++ t') := by
  intro folding before after
  have hfirst := h folding before (s' ++ after)
  have hsecond := h' folding (before ++ t) after
  simp only [List.append_assoc] at hfirst hsecond ⊢
  exact hfirst.trans hsecond

theorem Alike.foldCommas_eq (h : Alike s t) : foldCommas false s = foldCommas false t := by
  have hends := h false [] []
  simpa using hends

theorem foldCommas_cons (folding : Bool) (c : Char) (rest : List Char) :
    foldCommas folding (c :: rest)
      = if folding ∧ isBlank c then foldCommas true rest
        else if c = ',' ∧ (trimStart rest).head? = some ',' then foldCommas true rest
        else c :: foldCommas false rest := by
  rw [foldCommas]

/-- Whether a comma stays does not depend on what has been dropped before it. -/
theorem foldCommas_comma (folding : Bool) (rest : List Char) :
    foldCommas folding (',' :: rest)
      = if (trimStart rest).head? = some ',' then foldCommas true rest else ',' :: foldCommas false rest := by
  simp [foldCommas_cons, (by decide : isBlank ',' = false)]

theorem foldCommas_blank_append (h : Blank s) : foldCommas true (s ++ t) = foldCommas true t := by
  induction s with
  | nil => rfl
  | cons c s ih =>
      obtain ⟨hc, hs⟩ := List.forall_mem_cons.1 h
      rw [List.cons_append, foldCommas, if_pos ⟨rfl, hc⟩, ih hs]

theorem head?_trimStart_append (before : List Char) (h : (trimStart s).head? = (trimStart t).head?) :
    (trimStart (before ++ s)).head? = (trimStart (before ++ t)).head? := by
  induction before with
  | nil => exact h
  | cons c before ih =>
      unfold trimStart
      rw [List.cons_append, List.cons_append, List.dropWhile_cons, List.dropWhile_cons]
      split
      · exact ih
      · rfl

/-- Of two commas with white space between them one is kept. -/
theorem alike_commas (h : Blank s) : Alike (',' :: (s ++ [','])) [','] := by
  intro folding before after
  induction before generalizing folding with
  | nil =>
      have hnext : (trimStart (s ++ ',' :: after)).head? = some ',' := by
        rw [show trimStart (s ++ ',' :: after) = ',' :: after from
          dropWhile_append_eq h (head?_cons_not (by decide))]
        rfl
      have hfold : foldCommas folding (',' :: (s ++ ',' :: after)) = foldCommas folding (',' :: after) := by
        rw [foldCommas_comma, if_pos hnext, foldCommas_blank_append h, foldCommas_comma true,
          foldCommas_comma folding]
      simpa using hfold
  | cons c before ih =>
      have hhead : (trimStart (before ++ (',' :: (s ++ [',']) ++ after))).head?
          = (trimStart (before ++ ([','] ++ after))).head? :=
        head?_trimStart_append before rfl
      show foldCommas folding (c :: (before ++ _)) = foldCommas folding (c :: (before ++ _))
      rw [foldCommas_cons, foldCommas_cons, hhead, ih true, ih false]

/-! ## Lists of texts -/

/-- Texts, each behind a comma. -/
def listed (texts : List String) : List Char := texts.flatMap fun text => ',' :: ' ' :: text.toList

variable {texts texts' : List String}

theorem listed_append (texts texts' : List String) : listed (texts ++ texts') = listed texts ++ listed texts' :=
  List.flatMap_append

theorem toList_joined (text : String) (texts : List String) :
    (", ".intercalate (text :: texts)).toList = text.toList ++ listed texts :=
  toList_intercalate_cons text ", " texts

theorem exists_listed_concat (texts : List String) : ∃ more, listed texts ++ [','] = ',' :: more := by
  cases texts with
  | nil => exact ⟨[], rfl⟩
  | cons text texts => exact ⟨' ' :: text.toList ++ listed texts ++ [','], by simp [listed]⟩

/-- Blank texts leave no trace in a list that goes on. -/
theorem alike_listed_comma (texts : List String) :
    Alike (listed texts ++ [',']) (listed (solid texts) ++ [',']) := by
  induction texts with
  | nil => exact Alike.refl _
  | cons text texts ih =>
      have hfirst : Alike (listed (text :: texts) ++ [','])
          (',' :: ' ' :: text.toList ++ (listed (solid texts) ++ [','])) := by
        have happend := (Alike.refl (',' :: ' ' :: text.toList)).append ih
        simpa [listed] using happend
      refine hfirst.trans ?_
      by_cases hblank : blank text = true
      · have hspace : Blank (' ' :: text.toList) :=
          List.forall_mem_cons.2 ⟨by decide, List.all_eq_true.1 hblank⟩
        obtain ⟨more, hmore⟩ := exists_listed_concat (solid texts)
        have hcommas := (alike_commas hspace).append (Alike.refl more)
        rw [solid_cons_of_blank hblank, hmore]
        simpa using hcommas
      · rw [solid_cons (Bool.eq_false_iff.2 hblank)]
        simpa [listed] using Alike.refl (listed (text :: solid texts) ++ [','])

/-- Blank texts leave no trace in a list whose last text is not blank. -/
theorem alike_listed (h : ∀ text ∈ texts.getLast?, blank text = false) :
    Alike (listed texts) (listed (solid texts)) := by
  rcases List.eq_nil_or_concat texts with rfl | ⟨first, last, rfl⟩
  · exact Alike.refl _
  · have hlast : blank last = false := h last (by simp)
    have hsolid : solid (first.concat last) = solid first ++ [last] := by simp [solid, hlast]
    have hlisted : ∀ front, listed (front ++ [last]) = (listed front ++ [',']) ++ ' ' :: last.toList := by
      simp [listed]
    rw [hsolid, List.concat_eq_append, hlisted, hlisted]
    exact (alike_listed_comma first).append (Alike.refl _)

theorem alike_joined (h : ∀ text, text ∈ texts.head? ∨ text ∈ texts.getLast? → blank text = false) :
    Alike (", ".intercalate texts).toList (", ".intercalate (solid texts)).toList := by
  cases texts with
  | nil => exact Alike.refl _
  | cons text texts =>
      have hlast : ∀ last ∈ texts.getLast?, blank last = false := fun last hlast =>
        h last (Or.inr (by rw [List.getLast?_cons, Option.mem_def.1 hlast]; rfl))
      rw [solid_cons (h text (Or.inl rfl)), toList_joined, toList_joined]
      exact (Alike.refl _).append (alike_listed hlast)

/-- Two lists of texts that folding does not tell apart, one by one. -/
def AlikeTexts (texts texts' : List String) : Prop :=
  List.Forall₂ (fun s t : String => Alike s.toList t.toList) texts texts'

theorem AlikeTexts.refl (texts : List String) : AlikeTexts texts texts :=
  List.forall₂_same.2 fun text _ => Alike.refl text.toList

theorem AlikeTexts.append {later later' : List String} (h : AlikeTexts texts texts')
    (h' : AlikeTexts later later') : AlikeTexts (texts ++ later) (texts' ++ later') :=
  List.rel_append h h'

theorem AlikeTexts.listed (h : AlikeTexts texts texts') :
    Alike (listed texts) (listed texts') := by
  induction h with
  | nil => exact Alike.refl _
  | @cons s t texts texts' hst _ ih =>
      have htext := ((Alike.refl [',', ' ']).append hst).append ih
      simpa [Script.listed] using htext

theorem AlikeTexts.joined (h : AlikeTexts texts texts') :
    Alike (", ".intercalate texts).toList (", ".intercalate texts').toList := by
  cases h with
  | nil => exact Alike.refl _
  | cons hst hrest =>
      rw [toList_joined, toList_joined]
      exact hst.append (AlikeTexts.listed hrest)

/-! ## Segments -/

theorem not_blank_of_mem {text : String} {c : Char} (hmem : c ∈ text.toList) (hc : isBlank c = false) :
    blank text = false := by
  refine Bool.eq_false_iff.2 fun hblank => ?_
  rw [List.all_eq_true.1 hblank c hmem] at hc
  exact Bool.noConfusion hc

theorem solid_solid (texts : List String) : solid (solid texts) = solid texts := by
  simp [solid]

theorem solid_append (texts texts' : List String) : solid (texts ++ texts') = solid texts ++ solid texts' :=
  List.filter_append ..

theorem not_blank_of_mem_solid {text : String} (h : text ∈ solid texts) : blank text = false := by
  simpa using (List.mem_filter.1 h).2

/-- The one segment that lists texts, if there are any. -/
def spoken (texts : List String) : List String := if texts = [] then [] else [", ".intercalate texts]

/-- A list of texts is blank only if it is a blank text alone. -/
theorem blank_joined_cons (text : String) (texts : List String) :
    blank (", ".intercalate (text :: texts)) = (blank text && texts.isEmpty) := by
  rw [blank, toList_joined, List.all_append]
  cases texts with
  | nil => simp [listed, blank]
  | cons next texts => simp [listed, (by decide : isBlank ',' = false)]

theorem not_blank_joined {text : String} (h : blank text = false) (texts : List String) :
    blank (", ".intercalate (text :: texts)) = false := by
  rw [blank_joined_cons, h, Bool.false_and]

theorem solid_spoken (h : ∀ text ∈ texts, blank text = false) :
    solid (spoken texts) = spoken texts := by
  cases texts with
  | nil => rfl
  | cons text texts =>
      have hblank := not_blank_joined (h text List.mem_cons_self) texts
      simp [spoken, solid, hblank]

theorem listed_spoken (texts : List String) : listed (spoken texts) = listed texts := by
  cases texts with
  | nil => rfl
  | cons text texts =>
      rw [spoken, if_neg (List.cons_ne_nil text texts), listed, List.flatMap_singleton, toList_joined]
      rfl

/-- The values of a subject leave no trace of blanks before other segments, or if the last one is not blank. -/
theorem alike_spoken {rest : List String}
    (h : texts.length ≤ 1 ∨ (∀ text ∈ texts.getLast?, blank text = false) ∨ rest ≠ []) :
    Alike (listed (solid (spoken texts)) ++ listed rest)
      (listed (solid (spoken (solid texts))) ++ listed rest) := by
  rw [solid_spoken fun _ => not_blank_of_mem_solid, listed_spoken]
  cases texts with
  | nil => exact Alike.refl _
  | cons text texts =>
      by_cases hblank : blank (", ".intercalate (text :: texts)) = true
      · -- a blank value alone is left out as a segment
        have hnone : solid (spoken (text :: texts)) = [] := by simp [spoken, solid, hblank]
        obtain ⟨htext, hrest⟩ : blank text = true ∧ texts = [] := by simpa [blank_joined_cons] using hblank
        have hsolid : solid (text :: texts) = [] := by simp [solid, htext, hrest]
        rw [hnone, hsolid]
        exact Alike.refl _
      · have hkept : solid (spoken (text :: texts)) = spoken (text :: texts) := by
          simp [spoken, solid, hblank]
        rw [hkept, listed_spoken]
        by_cases hrest : rest = []
        · have hlast : ∀ last ∈ (text :: texts).getLast?, blank last = false := by
            rcases h with hlength | hlast | hne
            · obtain rfl : texts = [] := List.eq_nil_of_length_eq_zero (by simpa using hlength)
              simpa [blank_joined_cons] using hblank
            · exact hlast
            · exact absurd hrest hne
          exact (alike_listed hlast).append (Alike.refl _)
        · obtain ⟨next, rest, rfl⟩ := List.exists_cons_of_ne_nil hrest
          have hcomma : ∀ front : List Char, front ++ listed (next :: rest)
              = (front ++ [',']) ++ (' ' :: next.toList ++ listed rest) := by simp [listed]
          rw [hcomma, hcomma]
          exact (alike_listed_comma (text :: texts)).append (Alike.refl _)

/-! ## Prompts -/

namespace Outline

variable {outline : Outline}

/-- The details that are told. -/
def told (outline : Outline) : List String :=
  detailLabels.filterMap fun (part, label) =>
    let values := (outline.group part).values
    if values = [] then none else some (label ++ ": (" ++ ", ".intercalate values ++ ")")

theorem details_eq (outline : Outline) : outline.details = spoken outline.told := rfl

theorem not_blank_of_mem_told {text : String} (h : text ∈ outline.told) : blank text = false := by
  obtain ⟨⟨part, label⟩, _, htold⟩ := List.mem_filterMap.1 h
  simp only at htold
  split at htold
  · simp at htold
  · obtain rfl := Option.some.inj htold
    exact not_blank_of_mem (c := ')') (by simp) (by decide)

/-- The blank values of an outline stand where a comma is on either side of them: no group of details starts
    or ends with one, and neither does the subject end with one among others if nothing follows it. -/
structure BlanksWithin (outline : Outline) : Prop where
  details : ∀ part, part ≠ .scene → ∀ text,
    text ∈ (outline.group part).values.head? ∨ text ∈ (outline.group part).values.getLast? → blank text = false
  subject : ∀ subject, outline.subject = some subject →
    subject.values.length ≤ 1 ∨ (∀ text ∈ subject.values.getLast?, blank text = false) ∨
      ∃ segment ∈ outline.place ++ outline.details, blank segment = false

theorem BlanksWithin.told (h : outline.BlanksWithin) : AlikeTexts outline.told outline.withoutBlanks.told := by
  have hlabels : List.Forall₂ (fun a b : Part × String => a = b ∧ a.1 ≠ .scene) detailLabels detailLabels := by
    simp [detailLabels]
  refine List.rel_filterMap ?_ hlabels
  rintro ⟨part, label⟩ _ ⟨rfl, hpart⟩
  have hends := h.details part hpart
  simp only [values_withoutBlanks]
  cases hvalues : (outline.group part).values with
  | nil => exact .none
  | cons value values =>
      rw [hvalues] at hends
      have hjoined := alike_joined hends
      rw [solid_cons (hends value (Or.inl rfl))] at hjoined ⊢
      rw [if_neg (List.cons_ne_nil _ _), if_neg (List.cons_ne_nil _ _)]
      refine .some ?_
      simpa using (((Alike.refl label.toList).append (Alike.refl ": (".toList)).append hjoined).append
        (Alike.refl ")".toList)

theorem solid_place_withoutBlanks (outline : Outline) :
    solid outline.withoutBlanks.place = solid outline.place := by
  have hvalues : outline.withoutBlanks.scene.values = solid outline.scene.values :=
    outline.values_withoutBlanks .scene
  rw [place, place, solid_append, solid_append, hvalues, solid_solid]
  rfl

theorem solid_details (outline : Outline) : solid outline.details = outline.details :=
  solid_spoken fun _ => not_blank_of_mem_told

/-- What is told besides the subject is alike. -/
theorem BlanksWithin.rest (h : outline.BlanksWithin) :
    AlikeTexts (solid (outline.place ++ outline.details))
      (solid (outline.withoutBlanks.place ++ outline.withoutBlanks.details)) := by
  rw [solid_append, solid_append, solid_place_withoutBlanks, solid_details, solid_details]
  refine (AlikeTexts.refl _).append ?_
  have htold := h.told
  have hjoined := htold.joined
  rw [details_eq, details_eq]
  generalize outline.told = told at htold hjoined
  generalize outline.withoutBlanks.told = told' at htold hjoined
  cases htold with
  | nil => exact .nil
  | cons _ _ => exact .cons hjoined .nil

/-- The joined segments of an outline without its blank values are those of the outline, up to commas. -/
theorem BlanksWithin.segments (h : outline.BlanksWithin) :
    Alike (", ".intercalate (solid outline.segments)).toList
      (", ".intercalate (solid outline.withoutBlanks.segments)).toList := by
  have hrest := h.rest
  unfold Outline.segments
  rw [List.append_assoc, List.append_assoc, solid_append, solid_append outline.withoutBlanks.lead]
  cases hsubject : outline.subject with
  | none =>
      have hlead : outline.withoutBlanks.lead = outline.lead := by
        simp [lead, withoutBlanks, hsubject, Group.withoutBlanks]
      rw [hlead]
      exact ((AlikeTexts.refl _).append hrest).joined
  | some subject =>
      have hname : blank ("A " ++ subject.name) = false := not_blank_of_mem (c := 'A') (by simp) (by decide)
      have hlead : outline.lead = ("A " ++ subject.name) :: spoken subject.values := by
        rw [lead, hsubject]
        rfl
      have hlead' : outline.withoutBlanks.lead = ("A " ++ subject.name) :: spoken (solid subject.values) := by
        rw [lead, withoutBlanks, hsubject, ← subject.values_withoutBlanks]
        rfl
      have hends : subject.values.length ≤ 1 ∨ (∀ text ∈ subject.values.getLast?, blank text = false) ∨
          solid (outline.place ++ outline.details) ≠ [] := by
        refine (h.subject subject hsubject).imp_right (Or.imp_right ?_)
        rintro ⟨segment, hmem, hsegment⟩
        exact List.ne_nil_of_mem (List.mem_filter.2 ⟨hmem, by simpa using hsegment⟩)
      rw [hlead, hlead', solid_cons hname, solid_cons hname, List.cons_append, List.cons_append,
        toList_joined, toList_joined, listed_append, listed_append]
      refine (Alike.refl _).append ((alike_spoken hends).trans ?_)
      exact (Alike.refl _).append hrest.listed

/-- Blank values leave no trace in a prompt if no group of details starts or ends with one, and the subject
    does not end with one either, unless that is its only value or something follows. -/
theorem prompt_withoutBlanks (h : outline.BlanksWithin) : outline.withoutBlanks.prompt = outline.prompt :=
  congrArg String.ofList h.segments.foldCommas_eq.symm

/-- Blank values in the middle of the subject and of the style, and one as the whole of the scene. -/
theorem prompt_withoutBlanks_lamp :
    let outline : Outline :=
      { subject := some ⟨"lamp", "lamp", [⟨"a", "old"⟩, ⟨"b", " "⟩, ⟨"c", "dim"⟩]⟩
        scene := { properties := [⟨"a", " "⟩] }
        style := { properties := [⟨"a", "warm"⟩, ⟨"b", " "⟩, ⟨"c", "\t"⟩, ⟨"d", "soft"⟩] } }
    outline.BlanksWithin ∧ outline.withoutBlanks.prompt = outline.prompt ∧
      outline.prompt = "A lamp, old, dim, style: (warm, soft)" := by
  intro outline
  have hwithin : outline.BlanksWithin := by
    refine ⟨fun part hpart text htext => ?_, fun subject hsubject => ?_⟩
    · cases part with
      | scene => exact absurd rfl hpart
      | style =>
          rcases htext with htext | htext
          · obtain rfl : "warm" = text := Option.some.inj htext
            decide
          · obtain rfl : "soft" = text := Option.some.inj htext
            decide
      | camera => exact absurd htext (by simp [outline, Outline.group, Group.values])
      | palette => exact absurd htext (by simp [outline, Outline.group, Group.values])
    · obtain rfl : (⟨"lamp", "lamp", [⟨"a", "old"⟩, ⟨"b", " "⟩, ⟨"c", "dim"⟩]⟩ : Subject) = subject :=
        Option.some.inj hsubject
      refine Or.inr (Or.inl fun text htext => ?_)
      obtain rfl : "dim" = text := Option.some.inj htext
      decide
  exact ⟨hwithin, prompt_withoutBlanks hwithin, by decide +kernel⟩

/-- A blank value at the end of a prompt leaves a comma, and one that is a whole group leaves the group. -/
theorem blank_values_leave_traces :
    let subject := ofScript "create a \"x\" \x7b p: \"one\"; q: \" \"; \x7d"
    let style := ofScript "create a \"x\" \x7b \x7d set style \x7b p: \" \"; \x7d"
    trimmed subject.prompt = "A x, one," ∧ trimmed subject.withoutBlanks.prompt = "A x, one" ∧
      trimmed style.prompt = "A x, style: ( )" ∧ trimmed style.withoutBlanks.prompt = "A x" := by
  decide +kernel

end Outline

end PromptCanvas.Script
