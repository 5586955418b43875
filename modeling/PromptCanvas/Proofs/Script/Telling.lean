import PromptCanvas.Proofs.Script.Blanks
import PromptCanvas.Script.Telling

set_option autoImplicit false

/-! # What a prompt keeps

Between its pieces a prompt has commas and white space, blank pieces are left out, and runs of commas are folded.
All of this adds and takes away commas and white space only, so that the rest of a prompt is the rest of its
pieces, in their order (`gist_prompt`). Folding leaves no run of commas (`not_commaRun_foldCommas`): a comma is
kept only if the next character that is not white space is none. -/

namespace PromptCanvas.Script

open Text

variable {cs : List Char}

/-! ## Gists -/

theorem gist_append (cs cs' : List Char) : gist (cs ++ cs') = gist cs ++ gist cs' := List.filter_append ..

theorem gist_cons_of_isBlank {c : Char} (h : isBlank c = true) (cs : List Char) : gist (c :: cs) = gist cs :=
  List.filter_cons_of_neg (by simp [h])

theorem gist_comma (cs : List Char) : gist (',' :: cs) = gist cs := List.filter_cons_of_neg (by simp)

theorem gist_cons_congr (c : Char) {cs cs' : List Char} (h : gist cs = gist cs') :
    gist (c :: cs) = gist (c :: cs') :=
  (gist_append [c] cs).trans ((congrArg (gist [c] ++ ·) h).trans (gist_append [c] cs').symm)

theorem gist_of_blank {text : String} (h : blank text = true) : gist text.toList = [] := by
  refine List.filter_eq_nil_iff.2 fun c hc => ?_
  simp [List.all_eq_true.1 h c hc]

/-- Folding drops commas and white space only. -/
theorem gist_foldCommas (folding : Bool) (cs : List Char) : gist (foldCommas folding cs) = gist cs := by
  induction cs generalizing folding with
  | nil => cases folding <;> rfl
  | cons c cs ih =>
      rw [foldCommas_cons]
      split
      · next hblank => rw [ih, gist_cons_of_isBlank hblank.2]
      · split
        · next hcomma => rw [ih, hcomma.1, gist_comma]
        · exact gist_cons_congr c (ih false)

/-! ## Gists of lists of texts -/

/-- The gists of texts, one after the other. -/
def gists (texts : List String) : List Char := texts.flatMap fun text => gist text.toList

theorem gists_cons (text : String) (texts : List String) : gists (text :: texts) = gist text.toList ++ gists texts :=
  List.flatMap_cons

theorem gists_append (texts texts' : List String) : gists (texts ++ texts') = gists texts ++ gists texts' :=
  List.flatMap_append

theorem gist_concat (texts : List String) : gist (String.join texts).toList = gists texts := by
  induction texts with
  | nil => rfl
  | cons text texts ih => rw [String.join_cons, String.toList_append, gist_append, ih, gists_cons]

theorem gist_listed (texts : List String) : gist (listed texts) = gists texts := by
  induction texts with
  | nil => rfl
  | cons text texts ih =>
      have hlisted : listed (text :: texts) = ',' :: ' ' :: (text.toList ++ listed texts) := rfl
      rw [hlisted, gist_comma, gist_cons_of_isBlank (by decide), gist_append, ih, gists_cons]

theorem gist_joined (texts : List String) : gist (", ".intercalate texts).toList = gists texts := by
  cases texts with
  | nil => rfl
  | cons text texts => rw [toList_joined, gist_append, gist_listed, gists_cons]

theorem gists_solid (texts : List String) : gists (solid texts) = gists texts := by
  induction texts with
  | nil => rfl
  | cons text texts ih =>
      by_cases hblank : blank text = true
      · rw [solid_cons_of_blank hblank, ih, gists_cons, gist_of_blank hblank, List.nil_append]
      · rw [solid_cons (Bool.eq_false_iff.2 hblank), gists_cons, gists_cons, ih]

theorem gists_spoken (texts : List String) : gists (spoken texts) = gists texts := by
  unfold spoken
  split
  · next hnil => rw [hnil]
  · rw [gists_cons, gist_joined]
    exact List.append_nil _

/-! ## Runs of commas -/

/-- Somewhere in the text two commas have only white space between them. -/
def CommaRun (cs : List Char) : Prop := ∃ space, Blank space ∧ ',' :: (space ++ [',']) <:+: cs

theorem exists_blank_comma_prefix_iff :
    (∃ space, Blank space ∧ space ++ [','] <+: cs) ↔ (trimStart cs).head? = some ',' := by
  constructor
  · rintro ⟨space, hspace, rest, rfl⟩
    rw [List.append_assoc, show trimStart (space ++ ([','] ++ rest)) = [','] ++ rest from
      dropWhile_append_eq hspace (head?_cons_not (by decide))]
    rfl
  · intro h
    obtain ⟨rest, hrest⟩ := List.head?_eq_some_iff.1 h
    refine ⟨cs.takeWhile isBlank, fun c hc => List.mem_takeWhile_imp hc, rest, ?_⟩
    rw [List.append_assoc, List.singleton_append, ← hrest]
    exact List.takeWhile_append_dropWhile

/-- A run of commas starts at the first character, or it is in the rest of the text. -/
theorem commaRun_cons_iff {c : Char} :
    CommaRun (c :: cs) ↔ (c = ',' ∧ (trimStart cs).head? = some ',') ∨ CommaRun cs := by
  unfold CommaRun
  rw [← exists_blank_comma_prefix_iff]
  simp only [List.infix_cons_iff, List.cons_prefix_cons]
  constructor
  · rintro ⟨space, hspace, ⟨hc, hstart⟩ | hinner⟩
    · exact Or.inl ⟨hc.symm, space, hspace, hstart⟩
    · exact Or.inr ⟨space, hspace, hinner⟩
  · rintro (⟨hc, space, hspace, hstart⟩ | ⟨space, hspace, hinner⟩)
    · exact ⟨space, hspace, Or.inl ⟨hc.symm, hstart⟩⟩
    · exact ⟨space, hspace, Or.inr hinner⟩

/-- What is folded goes on with a comma only if it did so before. -/
theorem head?_trimStart_of_foldCommas (h : (trimStart (foldCommas false cs)).head? = some ',') :
    (trimStart cs).head? = some ',' := by
  induction cs with
  | nil => exact h
  | cons c cs ih =>
      by_cases hblank : isBlank c = true
      · have hc : c ≠ ',' := by
          rintro rfl
          exact absurd hblank (by decide)
        rw [foldCommas_cons, if_neg (by simp), if_neg fun hcomma => hc hcomma.1, trimStart,
          List.dropWhile_cons_of_pos hblank] at h
        rw [trimStart, List.dropWhile_cons_of_pos hblank]
        exact ih h
      · rw [trimStart, List.dropWhile_cons_of_neg hblank]
        rw [foldCommas_cons, if_neg (by simp)] at h
        split at h
        · next hcomma => rw [hcomma.1, List.head?_cons]
        · rwa [trimStart, List.dropWhile_cons_of_neg hblank] at h

theorem not_commaRun_foldCommas (folding : Bool) (cs : List Char) : ¬ CommaRun (foldCommas folding cs) := by
  induction cs generalizing folding with
  | nil =>
      rintro ⟨space, _, hinfix⟩
      have hnil : foldCommas folding [] = [] := by cases folding <;> rfl
      rw [hnil, List.infix_nil] at hinfix
      exact List.cons_ne_nil _ _ hinfix
  | cons c cs ih =>
      rw [foldCommas_cons]
      split
      · exact ih true
      · split
        · exact ih true
        · next hcomma =>
            rw [commaRun_cons_iff, not_or]
            exact ⟨fun hrun => hcomma ⟨hrun.1, head?_trimStart_of_foldCommas hrun.2⟩, ih false⟩

/-! ## Prompts -/

namespace Outline

variable (outline : Outline)

theorem gists_introduced (words : String) (name : Option String) :
    gists (introduced words name)
      = gists (if name.getD "" = "" then [] else [words ++ name.getD ""]) := by
  unfold introduced
  split
  · rfl
  · simp [gists, gist_append]

theorem gists_lead : gists outline.lead = gists outline.leading := by
  unfold lead leading
  cases outline.subject with
  | none => exact (gists_introduced _ _).symm
  | some subject =>
      show gists (("A " ++ subject.name) :: spoken subject.values) = _
      rw [gists_cons, gists_spoken, String.toList_append, gist_append, gists_cons, gists_cons, List.append_assoc]

theorem gists_place :
    gists outline.place = gists (introduced "in a " outline.scene.name) ++ gists outline.scene.values := by
  rw [gists_introduced]
  exact gists_append _ _

/-- What is told of a part under a label, if the part has values. -/
def detail? (part : Part) (label : String) : Option String :=
  let values := (outline.group part).values
  if values = [] then none else some (label ++ ": (" ++ ", ".intercalate values ++ ")")

/-- A detail tells the values of its part in parentheses. -/
theorem gists_detail? (part : Part) (label : String) :
    gists (outline.detail? part label).toList = gists (enclosed (label ++ ": (") (outline.group part).values) := by
  unfold detail? enclosed
  by_cases hvalues : (outline.group part).values = []
  · simp only [hvalues, if_true]
    rfl
  · simp only [hvalues, if_false, Option.toList_some]
    rw [gists_cons, String.toList_append, String.toList_append, gist_append, gist_append, gist_joined, gists_cons,
      gists_append, List.append_assoc, List.append_assoc]
    rfl

theorem gists_told :
    gists outline.told = gists (enclosed "style: (" outline.style.values) ++
      (gists (enclosed "camera details: (" outline.camera.values) ++
        gists (enclosed "color palette: (" outline.palette.values)) := by
  have htold : outline.told = (outline.detail? .style "style").toList ++
      ((outline.detail? .camera "camera details").toList ++
        (outline.detail? .palette "color palette").toList) := by
    show detailLabels.filterMap (fun entry => outline.detail? entry.1 entry.2) = _
    rw [List.filterMap_eq_flatMap_toList]
    simp [detailLabels]
  rw [htold, gists_append, gists_append, gists_detail?, gists_detail?, gists_detail?]
  rfl

/-- A prompt keeps all that its pieces tell, in their order. -/
theorem gist_prompt : gist outline.prompt.toList = gists outline.telling := by
  have hsegments : gist outline.prompt.toList = gists outline.segments := by
    unfold prompt
    rw [String.toList_ofList, gist_foldCommas, gist_joined]
    exact gists_solid outline.segments
  unfold segments at hsegments
  unfold telling
  rw [hsegments, gists_append, gists_append, gists_lead, gists_place, details_eq, gists_spoken, gists_told]
  simp only [gists_append, List.append_assoc]

/-- Nothing that an outline tells is lost or moved in its prompt, apart from commas and white space; and no two
    commas of the prompt have only white space between them. -/
theorem prompt_tells :
    gist outline.prompt.toList = gist (String.join outline.telling).toList ∧ ¬ CommaRun outline.prompt.toList := by
  refine ⟨(gist_prompt outline).trans (gist_concat outline.telling).symm, ?_⟩
  unfold prompt
  rw [String.toList_ofList]
  exact not_commaRun_foldCommas false _

/-- Runs of commas span values, the commas between them, and the ends of a group. -/
example :
    let outline : Outline :=
      { subject := some ⟨"bird", "crow,", [⟨"eye", " ,"⟩, ⟨"wing", "black, , wide"⟩]⟩
        style := { properties := [⟨"mood", ","⟩, ⟨"light", " "⟩] } }
    outline.prompt = "A crow, black, wide, style: (,  )" ∧
      String.join outline.telling = "A crow, ,black, , widestyle: (, )" := by
  decide +kernel

end Outline

end PromptCanvas.Script
