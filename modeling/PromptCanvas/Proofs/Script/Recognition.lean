import PromptCanvas.Proofs.Script.Margin
import PromptCanvas.Proofs.Script.Occurrence
import PromptCanvas.Proofs.Script.Outline
import PromptCanvas.Proofs.Script.Property

set_option autoImplicit false

/-! # The blocks that a script is read as

The grammar of properties and of the two kinds of blocks, each as a `Grammar` of pieces. The recognisers read
these grammars, so that a script is read as the outline that the chosen occurrences determine. The properties
of a block are themselves the occurrences that are chosen in its body. -/

namespace PromptCanvas.Script

open Text

variable {cs left : List Char} {afterWord : Bool}

/-! ## Grammars -/

/-- A property: a label with the white space behind it, or none, a colon, and a quoted text behind white
    space. -/
def IsProperty : Grammar Property := fun _ property piece =>
  ∃ label front space text, Label label front ∧ Blank space ∧ Inner '"' text ∧
    piece = front ++ ':' :: (space ++ '"' :: (text ++ ['"'])) ∧
    property = ⟨String.ofList label, String.ofList text⟩

/-- The properties in a body. -/
def Gathered (body : List Char) (properties : List Property) : Prop :=
  ∃ chosen, Chosen IsProperty body 0 chosen ∧ properties = chosen.map Occurrence.part

/-- A block with its keyword, which follows no word character. -/
def IsBlock (word : String) (afterWord : Bool) (kind : String) (name : Option String)
    (properties : List Property) (piece : List Char) : Prop :=
  afterWord = false ∧ ∃ kind' name' body, Framed word kind' name' body [] piece ∧
    kind = String.ofList kind' ∧ name = name'.map String.ofList ∧ Gathered body properties

/-- A `create` block. It has a name. -/
def IsSubject : Grammar Subject := fun afterWord subject =>
  IsBlock "create" afterWord subject.kind (some subject.name) subject.properties

/-- A `set` block, with a name or without one. -/
def IsSetting : Grammar Setting := fun afterWord setting =>
  IsBlock "set" afterWord setting.kind setting.name setting.properties

/-! ## Reading them -/

theorem recognises_property? : Recognises property? IsProperty where
  iff := by
    intro afterWord cs property left
    rw [property?_eq_some_iff]
    constructor
    · rintro ⟨label, front, space, text, hlabel, hspace, htext, rfl, rfl⟩
      exact ⟨_, by simp, label, front, space, text, hlabel, hspace, htext, rfl, rfl⟩
    · rintro ⟨_, rfl, label, front, space, text, hlabel, hspace, htext, rfl, rfl⟩
      exact ⟨label, front, space, text, hlabel, hspace, htext, by simp, rfl⟩
  ne_nil := by
    rintro _ _ _ ⟨label, front, space, text, _, _, _, rfl, _⟩
    simp

/-- The properties in a body are those of the occurrences that are chosen in it. -/
theorem gathered_iff {body : List Char} {found : List Property} :
    Gathered body found ↔ found = properties body := (scanAll_eq_iff recognises_property?).symm

/-- Occurrences overlap, and the first one is chosen: a label is taken whole. -/
example : properties "dark mood: \"calm\" : \"soft\"".toList = [⟨"mood", "calm"⟩, ⟨"", "soft"⟩] := by
  decide +kernel

theorem framed_append_iff {word : String} {kind body : List Char} {name : Option (List Char)} :
    Framed word kind name body left cs ↔ ∃ piece, cs = piece ++ left ∧ Framed word kind name body [] piece := by
  constructor
  · rintro ⟨hgap, hkind, htitle, hspace, hbody⟩
    exact ⟨_, by simp, .intro hgap hkind htitle hspace hbody⟩
  · rintro ⟨_, rfl, @⟨gap, title, space, hgap, hkind, htitle, hspace, hbody⟩⟩
    have hframed : Framed word kind name body left _ := .intro hgap hkind htitle hspace hbody
    simpa using hframed

theorem Framed.ne_nil {word : String} {kind body : List Char} {name : Option (List Char)}
    (h : Framed word kind name body left cs) : cs ≠ [] := by
  cases h with
  | intro _ _ _ _ _ => simp

theorem IsBlock.ne_nil {word kind : String} {name : Option String} {properties : List Property}
    {piece : List Char} (h : IsBlock word afterWord kind name properties piece) : piece ≠ [] := by
  obtain ⟨_, _, _, _, hframed, _⟩ := h
  exact hframed.ne_nil

/-- A text starts with a block if it starts with its frame. -/
theorem isBlock_append_iff {word kind : String} {name : Option String} {found : List Property} :
    (∃ piece, cs = piece ++ left ∧ IsBlock word afterWord kind name found piece) ↔
      afterWord = false ∧ ∃ kind' name' body, Framed word kind' name' body left cs ∧
        kind = String.ofList kind' ∧ name = name'.map String.ofList ∧ found = properties body := by
  constructor
  · rintro ⟨piece, hpiece, hafter, kind', name', body, hframed, hkind, hname, hgathered⟩
    exact ⟨hafter, kind', name', body, framed_append_iff.2 ⟨piece, hpiece, hframed⟩, hkind, hname,
      gathered_iff.1 hgathered⟩
  · rintro ⟨hafter, kind', name', body, hframed, hkind, hname, hfound⟩
    obtain ⟨piece, hpiece, hframed⟩ := framed_append_iff.1 hframed
    exact ⟨piece, hpiece, hafter, kind', name', body, hframed, hkind, hname, gathered_iff.2 hfound⟩

theorem recognises_subject? : Recognises subject? IsSubject where
  iff := by
    intro afterWord cs subject left
    rw [subject?_eq_some_iff]
    refine Iff.trans (and_congr_right fun _ => ⟨?_, ?_⟩) isBlock_append_iff.symm
    · rintro ⟨kind, name, body, hframed, rfl⟩
      exact ⟨kind, some name, body, hframed, rfl, rfl, rfl⟩
    · rintro ⟨kind, name', body, hframed, hkind, hname, hfound⟩
      obtain ⟨name, rfl, hgiven⟩ := Option.map_eq_some_iff.1 hname.symm
      refine ⟨kind, name, body, hframed, ?_⟩
      rw [← hkind, hgiven, ← hfound]
  ne_nil := IsBlock.ne_nil

theorem recognises_setting? : Recognises setting? IsSetting where
  iff := by
    intro afterWord cs setting left
    rw [setting?_eq_some_iff]
    refine Iff.trans (and_congr_right fun _ => ⟨?_, ?_⟩) isBlock_append_iff.symm
    · rintro ⟨kind, name, body, hframed, rfl⟩
      exact ⟨kind, name, body, hframed, rfl, rfl, rfl⟩
    · rintro ⟨kind, name, body, hframed, hkind, hname, hfound⟩
      refine ⟨kind, name, body, hframed, ?_⟩
      rw [← hkind, ← hname, ← hfound]
  ne_nil := IsBlock.ne_nil

/-! ## Outlines -/

namespace Outline

/-- The outline that blocks determine. The subject is the first `create` block, and the others are only
    counted. Each group has the properties of all settings of its kind; only the scene has names, the first
    and the last of those that are given. -/
structure Determined (subjects : List Subject) (settings : List Setting) (outline : Outline) : Prop where
  subject : outline.subject = subjects.head?
  ignoredSubjects : outline.ignoredSubjects = subjects.length - 1
  properties : ∀ part,
    (outline.group part).properties = (settingsOf part settings).flatMap Setting.properties
  firstName : outline.scene.firstName = ((settingsOf .scene settings).filterMap Setting.name).head?
  name : outline.scene.name = ((settingsOf .scene settings).filterMap Setting.name).getLast?
  unnamed : ∀ part, part ≠ .scene →
    (outline.group part).firstName = none ∧ (outline.group part).name = none

variable {subjects : List Subject} {settings : List Setting} {outline outline' : Outline}

theorem ext_group (hsubject : outline.subject = outline'.subject)
    (hignored : outline.ignoredSubjects = outline'.ignoredSubjects)
    (hgroup : ∀ part, outline.group part = outline'.group part) : outline = outline' := by
  have hscene : outline.scene = outline'.scene := hgroup .scene
  have hstyle : outline.style = outline'.style := hgroup .style
  have hcamera : outline.camera = outline'.camera := hgroup .camera
  have hpalette : outline.palette = outline'.palette := hgroup .palette
  cases outline
  cases outline'
  simp only [mk.injEq]
  exact ⟨hsubject, hscene, hstyle, hcamera, hpalette, hignored⟩

theorem Determined.unique (h : Determined subjects settings outline) (h' : Determined subjects settings outline') :
    outline = outline' := by
  refine ext_group (h.subject.trans h'.subject.symm) (h.ignoredSubjects.trans h'.ignoredSubjects.symm)
    fun part => ?_
  have hproperties := (h.properties part).trans (h'.properties part).symm
  have hnames : (outline.group part).firstName = (outline'.group part).firstName ∧
      (outline.group part).name = (outline'.group part).name := by
    by_cases hscene : part = .scene
    · subst hscene
      exact ⟨h.firstName.trans h'.firstName.symm, h.name.trans h'.name.symm⟩
    · obtain ⟨hfirst, hlast⟩ := h.unnamed part hscene
      obtain ⟨hfirst', hlast'⟩ := h'.unnamed part hscene
      exact ⟨hfirst.trans hfirst'.symm, hlast.trans hlast'.symm⟩
  generalize outline.group part = group at hproperties hnames
  generalize outline'.group part = group' at hproperties hnames
  cases group
  cases group'
  simp only [Group.mk.injEq]
  exact ⟨hnames.2, hnames.1, hproperties⟩

theorem determined_ofBlocks (subjects : List Subject) (settings : List Setting) :
    Determined subjects settings (ofBlocks subjects settings) where
  subject := (subject_ofBlocks subjects settings).1
  ignoredSubjects := (subject_ofBlocks subjects settings).2
  properties := properties_ofBlocks subjects settings
  firstName := (scene_ofBlocks subjects settings).1
  name := (scene_ofBlocks subjects settings).2
  unnamed := fun _ hscene => names_ofBlocks_of_ne_scene subjects settings hscene

/-- A script is read as the outline that its blocks determine, and its blocks are the occurrences that are
    chosen from left to right in what is left of it without comments and line breaks, `create` and `set`
    blocks apart from each other. At each place starts at most one occurrence, so that they are chosen in one
    way only. -/
theorem ofScript_exact (script : String) :
    (Unambiguous IsSubject (flatten script.toList) ∧ Unambiguous IsSetting (flatten script.toList) ∧
      ∀ body, Unambiguous IsProperty body) ∧
    (∃! creates, Chosen IsSubject (flatten script.toList) 0 creates) ∧
    (∃! sets, Chosen IsSetting (flatten script.toList) 0 sets) ∧
    ∀ outline, outline = ofScript script ↔
      ∃ creates sets, Chosen IsSubject (flatten script.toList) 0 creates ∧
        Chosen IsSetting (flatten script.toList) 0 sets ∧
        Determined (creates.map Occurrence.part) (sets.map Occurrence.part) outline := by
  refine ⟨⟨recognises_subject?.unambiguous _, recognises_setting?.unambiguous _,
    recognises_property?.unambiguous⟩, existsUnique_chosen recognises_subject? _,
    existsUnique_chosen recognises_setting? _, fun outline => ⟨?_, ?_⟩⟩
  · rintro rfl
    obtain ⟨creates, hcreates, hsubjects⟩ := (scanAll_eq_iff recognises_subject?).1 rfl
    obtain ⟨sets, hsets, hsettings⟩ := (scanAll_eq_iff recognises_setting?).1 rfl
    refine ⟨creates, sets, hcreates, hsets, ?_⟩
    rw [← hsubjects, ← hsettings]
    exact determined_ofBlocks _ _
  · rintro ⟨creates, sets, hcreates, hsets, hdetermined⟩
    rw [(scanAll_eq_iff recognises_subject?).2 ⟨creates, hcreates, rfl⟩,
      (scanAll_eq_iff recognises_setting?).2 ⟨sets, hsets, rfl⟩] at hdetermined
    exact hdetermined.unique (determined_ofBlocks _ _)

end Outline

end PromptCanvas.Script
