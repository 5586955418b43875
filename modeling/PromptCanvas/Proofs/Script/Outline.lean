import PromptCanvas.Script.Outline

set_option autoImplicit false

/-! # What blocks say

The outline of a list of blocks, read off the lists of subjects and settings. -/

namespace PromptCanvas.Script

/-! ## Groups -/

namespace Part

theorem ofWord?_eq_some_iff {s : String} {part : Part} : ofWord? s = some part ↔ s = part.word := by
  constructor
  · intro h
    have hfound := List.find?_some h
    exact (beq_iff_eq.1 hfound).symm
  · rintro rfl
    cases part <;> rfl

end Part

namespace Outline

variable {outline : Outline}

theorem group_setGroup (outline : Outline) (part other : Part) (group : Group) :
    (outline.setGroup part group).group other = if part = other then group else outline.group other := by
  cases part <;> cases other <;> rfl

theorem group_addSetting (outline : Outline) (setting : Setting) (part : Part) :
    (outline.addSetting setting).group part
      = if setting.kind = part.word then (outline.group part).add part setting
        else outline.group part := by
  unfold addSetting
  cases hkind : Part.ofWord? setting.kind with
  | some other =>
      have hword := Part.ofWord?_eq_some_iff.1 hkind
      show (outline.setGroup other _).group part = _
      rw [group_setGroup]
      by_cases hsame : other = part
      · subst hsame
        rw [if_pos rfl, if_pos hword]
      · rw [if_neg hsame, if_neg]
        intro hother
        rw [Part.ofWord?_eq_some_iff.2 hother] at hkind
        exact hsame (Option.some.inj hkind).symm
  | none =>
      rw [if_neg]
      intro hother
      rw [Part.ofWord?_eq_some_iff.2 hother] at hkind
      cases hkind

theorem properties_add (group : Group) (part : Part) (setting : Setting) :
    (group.add part setting).properties = group.properties ++ setting.properties := by
  unfold Group.add
  split <;> rfl

/-- The scene takes the last name and keeps the first. -/
theorem name_add_scene (group : Group) (setting : Setting) :
    (group.add .scene setting).name = setting.name.or group.name ∧
      (group.add .scene setting).firstName = group.firstName.or setting.name := by
  unfold Group.add
  cases setting.name <;> cases group.firstName <;> exact ⟨rfl, rfl⟩

theorem name_add_of_ne_scene {part : Part} (h : part ≠ .scene) (group : Group) (setting : Setting) :
    (group.add part setting).name = group.name ∧ (group.add part setting).firstName = group.firstName := by
  unfold Group.add
  split
  · exact absurd rfl h
  · exact ⟨rfl, rfl⟩

/-! ## Outlines -/

/-- The settings of a part. -/
def settingsOf (part : Part) (settings : List Setting) : List Setting :=
  settings.filter fun setting => setting.kind = part.word

theorem settingsOf_cons (part : Part) (setting : Setting) (settings : List Setting) :
    settingsOf part (setting :: settings)
      = if setting.kind = part.word then setting :: settingsOf part settings
        else settingsOf part settings := by
  simp [settingsOf, List.filter_cons]

theorem group_foldl_addSetting (settings : List Setting) (outline : Outline) (part : Part) :
    (settings.foldl addSetting outline).group part
      = (settingsOf part settings).foldl (fun group setting => group.add part setting)
          (outline.group part) := by
  induction settings generalizing outline with
  | nil => rfl
  | cons setting settings ih =>
      rw [List.foldl_cons, ih, group_addSetting, settingsOf_cons]
      split <;> rfl

theorem properties_foldl_add (settings : List Setting) (group : Group) (part : Part) :
    (settings.foldl (fun group setting => group.add part setting) group).properties
      = group.properties ++ settings.flatMap Setting.properties := by
  induction settings generalizing group with
  | nil => exact (List.append_nil _).symm
  | cons setting settings ih =>
      rw [List.foldl_cons, ih, properties_add, List.flatMap_cons, List.append_assoc]

theorem names_foldl_add_scene (settings : List Setting) (group : Group) :
    let gathered := settings.foldl (fun group setting => group.add .scene setting) group
    gathered.firstName = group.firstName.or (settings.filterMap Setting.name).head? ∧
      gathered.name = (settings.filterMap Setting.name).getLast?.or group.name := by
  induction settings generalizing group with
  | nil => simp
  | cons setting settings ih =>
      obtain ⟨hlast, hfirst⟩ := name_add_scene group setting
      obtain ⟨ihfirst, ihlast⟩ := ih (group.add .scene setting)
      rw [List.foldl_cons]
      refine ⟨ihfirst.trans ?_, ihlast.trans ?_⟩
      · rw [hfirst, Option.or_assoc, List.filterMap_cons]
        cases setting.name <;> simp
      · rw [hlast, ← Option.or_assoc, List.filterMap_cons]
        cases setting.name with
        | none => simp
        | some name => rw [List.getLast?_cons]; cases (settings.filterMap Setting.name).getLast? <;> simp

theorem names_foldl_add_of_ne_scene {part : Part} (h : part ≠ .scene) (settings : List Setting)
    (group : Group) :
    let gathered := settings.foldl (fun group setting => group.add part setting) group
    gathered.firstName = group.firstName ∧ gathered.name = group.name := by
  induction settings generalizing group with
  | nil => exact ⟨rfl, rfl⟩
  | cons setting settings ih =>
      obtain ⟨hlast, hfirst⟩ := name_add_of_ne_scene h group setting
      obtain ⟨ihfirst, ihlast⟩ := ih (group.add part setting)
      exact ⟨ihfirst.trans hfirst, ihlast.trans hlast⟩

theorem subject_foldl_addSetting (settings : List Setting) (outline : Outline) :
    (settings.foldl addSetting outline).subject = outline.subject ∧
      (settings.foldl addSetting outline).ignoredSubjects = outline.ignoredSubjects := by
  induction settings generalizing outline with
  | nil => exact ⟨rfl, rfl⟩
  | cons setting settings ih =>
      have hkept : (outline.addSetting setting).subject = outline.subject ∧
          (outline.addSetting setting).ignoredSubjects = outline.ignoredSubjects := by
        unfold addSetting
        cases Part.ofWord? setting.kind with
        | some part => cases part <;> exact ⟨rfl, rfl⟩
        | none => exact ⟨rfl, rfl⟩
      obtain ⟨ihsubject, ihignored⟩ := ih (outline.addSetting setting)
      exact ⟨ihsubject.trans hkept.1, ihignored.trans hkept.2⟩

/-! ## Outlines of blocks -/

variable (subjects : List Subject) (settings : List Setting)

theorem subject_ofBlocks :
    (ofBlocks subjects settings).subject = subjects.head? ∧
      (ofBlocks subjects settings).ignoredSubjects = subjects.length - 1 :=
  subject_foldl_addSetting settings _

theorem group_ofBlocks (part : Part) :
    (ofBlocks subjects settings).group part
      = (settingsOf part settings).foldl (fun group setting => group.add part setting) {} := by
  unfold ofBlocks
  rw [group_foldl_addSetting]
  cases part <;> rfl

/-- A group has the properties of all settings of its part, in their order. -/
theorem properties_ofBlocks (part : Part) :
    ((ofBlocks subjects settings).group part).properties
      = (settingsOf part settings).flatMap Setting.properties := by
  rw [group_ofBlocks, properties_foldl_add, List.nil_append]

/-- The scene has the first and the last of the names given to it. -/
theorem scene_ofBlocks :
    (ofBlocks subjects settings).scene.firstName
        = ((settingsOf .scene settings).filterMap Setting.name).head? ∧
      (ofBlocks subjects settings).scene.name
        = ((settingsOf .scene settings).filterMap Setting.name).getLast? := by
  have hnames := names_foldl_add_scene (settingsOf .scene settings) {}
  rw [← group_ofBlocks subjects settings .scene, Option.none_or, Option.or_none] at hnames
  exact hnames

theorem names_ofBlocks_of_ne_scene {part : Part} (h : part ≠ .scene) :
    ((ofBlocks subjects settings).group part).firstName = none ∧
      ((ofBlocks subjects settings).group part).name = none := by
  rw [group_ofBlocks]
  exact names_foldl_add_of_ne_scene h _ _

end Outline

end PromptCanvas.Script
