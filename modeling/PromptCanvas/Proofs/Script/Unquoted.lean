import PromptCanvas.Proofs.Script.Margin
import PromptCanvas.Proofs.Script.Outline
import PromptCanvas.Proofs.Script.Property
import PromptCanvas.Script.Prompt

set_option autoImplicit false

/-! # Texts without quotes

Names and values come from quoted texts, so that they hold no quotes themselves. A prompt is made of names
and values and words without quotes; and a text without quotes says nothing as a script, because a block
without a quote has neither a name nor a property. -/

namespace PromptCanvas.Script

open Text

/-- A text without quotes. -/
def Unquoted (s : String) : Prop := '"' ∉ s.toList

theorem unquoted_ofList {cs : List Char} (h : '"' ∉ cs) : Unquoted (String.ofList cs) := by
  rw [Unquoted, String.toList_ofList]
  exact h

theorem Unquoted.append {s t : String} (hs : Unquoted s) (ht : Unquoted t) : Unquoted (s ++ t) := by
  rw [Unquoted, String.toList_append]
  exact fun hmem => (List.mem_append.1 hmem).elim hs ht

theorem unquoted_joined {separator : String} {texts : List String} (hseparator : Unquoted separator)
    (h : ∀ s ∈ texts, Unquoted s) : Unquoted (separator.intercalate texts) := by
  induction texts with
  | nil => exact (by decide : '"' ∉ "".toList)
  | cons s texts ih =>
      obtain ⟨hs, htexts⟩ := List.forall_mem_cons.1 h
      cases texts with
      | nil => exact hs
      | cons t texts =>
          rw [String.intercalate_cons_cons]
          exact (hs.append hseparator).append (ih htexts)

/-! ## What is found in a script -/

/-- What a scan finds is recognised at the start of some text. -/
theorem exists_recognise_of_mem_scan {α : Type} {recognise : Bool → List Char → Option (α × List Char)}
    {part : α} {skip : Nat} {afterWord : Bool} {cs : List Char}
    (h : part ∈ scan recognise skip afterWord cs) :
    ∃ afterWord suffix left, suffix <:+ cs ∧ recognise afterWord suffix = some (part, left) := by
  induction cs generalizing skip afterWord with
  | nil => simp [scan] at h
  | cons c cs ih =>
      have hlater : ∀ {skip afterWord}, part ∈ scan recognise skip afterWord cs →
          ∃ afterWord suffix left, suffix <:+ c :: cs ∧ recognise afterWord suffix = some (part, left) := by
        intro skip afterWord hmem
        obtain ⟨after, suffix, left, hsuffix, hfound⟩ := ih hmem
        exact ⟨after, suffix, left, hsuffix.trans (List.suffix_cons c cs), hfound⟩
      cases skip with
      | zero =>
          rw [scan] at h
          split at h
          · next found left hfound =>
              rcases List.mem_cons.1 h with rfl | hmem
              · exact ⟨afterWord, c :: cs, left, List.suffix_refl _, hfound⟩
              · exact hlater hmem
          · exact hlater h
      | succ skip => exact hlater h

/-- A text that stands in quotes somewhere in another one. -/
def QuotedIn (cs : List Char) (s : String) : Prop := '"' ∉ s.toList ∧ s.toList <:+: cs

theorem quotedIn_ofList {cs front inner left suffix : List Char} (hinner : Inner '"' inner)
    (hsuffix : suffix <:+ cs) (h : suffix = front ++ '"' :: (inner ++ '"' :: left)) :
    QuotedIn cs (String.ofList inner) := by
  rw [QuotedIn, String.toList_ofList]
  refine ⟨hinner.2, List.IsInfix.trans ⟨front ++ ['"'], '"' :: left, ?_⟩ hsuffix.isInfix⟩
  simp [h]

theorem QuotedIn.mono {cs cs' : List Char} {s : String} (h : QuotedIn cs s) (hcs : cs <:+: cs') :
    QuotedIn cs' s :=
  ⟨h.1, h.2.trans hcs⟩

theorem quotedIn_of_mem_properties {body : List Char} {property : Property}
    (h : property ∈ properties body) : QuotedIn body property.text := by
  obtain ⟨_, suffix, left, hsuffix, hfound⟩ := exists_recognise_of_mem_scan h
  obtain ⟨_, front, space, text, _, _, hinner, hsplit, rfl⟩ := property?_eq_some_iff.1 hfound
  have hquote : suffix = (front ++ ':' :: space) ++ '"' :: (text ++ '"' :: left) := by simp [hsplit]
  exact quotedIn_ofList hinner hsuffix hquote

/-- The name of a block stands in quotes, and its body in the text. -/
theorem Framed.quotedIn {word : String} {kind body left cs suffix : List Char} {name : Option (List Char)}
    (h : Framed word kind name body left suffix) (hsuffix : suffix <:+ cs) :
    (∀ inner, name = some inner → QuotedIn cs (String.ofList inner)) ∧ body <:+: cs := by
  cases h with
  | @intro gap title space _ _ htitle _ _ =>
      constructor
      · rintro inner rfl
        cases htitle with
        | @named gap' _ _ hname =>
            have hquote : word.toList ++ (gap ++ (kind ++ ((gap' ++ '"' :: (inner ++ ['"']))
                ++ (space ++ '{' :: (body ++ '}' :: left)))))
                = (word.toList ++ (gap ++ (kind ++ gap')))
                  ++ '"' :: (inner ++ '"' :: (space ++ '{' :: (body ++ '}' :: left))) := by simp
            exact quotedIn_ofList hname hsuffix hquote
      · have hbody : body <:+: word.toList
            ++ (gap ++ (kind ++ (title ++ (space ++ '{' :: (body ++ '}' :: left))))) :=
          ⟨word.toList ++ (gap ++ (kind ++ (title ++ (space ++ ['{'])))), '}' :: left, by simp⟩
        exact hbody.trans hsuffix.isInfix

theorem quotedIn_of_mem_subjects {cs : List Char} {subject : Subject}
    (h : subject ∈ scanAll subject? cs) :
    QuotedIn cs subject.name ∧ ∀ text ∈ subject.values, QuotedIn cs text := by
  obtain ⟨_, _, _, hsuffix, hfound⟩ := exists_recognise_of_mem_scan h
  obtain ⟨_, _, name, _, hframed, rfl⟩ := subject?_eq_some_iff.1 hfound
  obtain ⟨hname, hbody⟩ := hframed.quotedIn hsuffix
  refine ⟨hname name rfl, fun text htext => ?_⟩
  obtain ⟨property, hproperty, rfl⟩ := List.mem_map.1 htext
  exact (quotedIn_of_mem_properties hproperty).mono hbody

theorem quotedIn_of_mem_settings {cs : List Char} {setting : Setting}
    (h : setting ∈ scanAll setting? cs) :
    (∀ name, setting.name = some name → QuotedIn cs name) ∧
      ∀ property ∈ setting.properties, QuotedIn cs property.text := by
  obtain ⟨_, _, _, hsuffix, hfound⟩ := exists_recognise_of_mem_scan h
  obtain ⟨_, _, _, _, hframed, rfl⟩ := setting?_eq_some_iff.1 hfound
  obtain ⟨hnames, hbody⟩ := hframed.quotedIn hsuffix
  refine ⟨fun name hname => ?_, fun property hproperty => ?_⟩
  · obtain ⟨inner, rfl, rfl⟩ := Option.map_eq_some_iff.1 hname
    exact hnames inner rfl
  · exact (quotedIn_of_mem_properties hproperty).mono hbody

/-! ## What prompts are made of -/

namespace Outline

/-- All names and values of an outline have a property. -/
structure Tells (p : String → Prop) (outline : Outline) : Prop where
  subject : ∀ subject, outline.subject = some subject → p subject.name ∧ ∀ text ∈ subject.values, p text
  names : ∀ name, outline.scene.firstName = some name ∨ outline.scene.name = some name → p name
  values : ∀ part, ∀ text ∈ (outline.group part).values, p text

theorem Tells.imp {p q : String → Prop} {outline : Outline} (h : outline.Tells p) (hpq : ∀ s, p s → q s) :
    outline.Tells q where
  subject := fun subject hsubject =>
    (h.subject subject hsubject).imp (hpq _) fun hvalues text htext => hpq _ (hvalues text htext)
  names := fun name hname => hpq _ (h.names name hname)
  values := fun part text htext => hpq _ (h.values part text htext)

/-- All that a script says stands in quotes in the flattened script. -/
theorem tells_ofScript (script : String) : (ofScript script).Tells (QuotedIn (flatten script.toList)) where
  subject := by
    intro subject hsubject
    have hhead := (subject_ofBlocks (scanAll subject? (flatten script.toList))
      (scanAll setting? (flatten script.toList))).1.symm.trans hsubject
    exact quotedIn_of_mem_subjects (List.mem_of_mem_head? hhead)
  names := by
    intro name hname
    obtain ⟨hfirst, hlast⟩ := scene_ofBlocks (scanAll subject? (flatten script.toList))
      (scanAll setting? (flatten script.toList))
    have hmem : name ∈ (settingsOf .scene (scanAll setting? (flatten script.toList))).filterMap
        Setting.name := by
      rcases hname with hname | hname
      · exact List.mem_of_mem_head? (hfirst.symm.trans hname)
      · exact List.mem_of_getLast? (hlast.symm.trans hname)
    obtain ⟨setting, hsetting, hname⟩ := List.mem_filterMap.1 hmem
    exact (quotedIn_of_mem_settings (List.mem_of_mem_filter hsetting)).1 name hname
  values := by
    intro part text htext
    obtain ⟨property, hproperty, rfl⟩ := List.mem_map.1 htext
    have hall := properties_ofBlocks (scanAll subject? (flatten script.toList))
      (scanAll setting? (flatten script.toList)) part
    rw [show ((ofScript script).group part).properties = _ from hall] at hproperty
    obtain ⟨setting, hsetting, hproperty⟩ := List.mem_flatMap.1 hproperty
    exact (quotedIn_of_mem_settings (List.mem_of_mem_filter hsetting)).2 property hproperty

/-- Nothing that an outline says holds a quote. -/
def Unquoted (outline : Outline) : Prop := outline.Tells Script.Unquoted

theorem unquoted_ofScript (script : String) : (ofScript script).Unquoted :=
  (tells_ofScript script).imp fun _ h => h.1

variable {outline : Outline}

theorem Unquoted.getD {name : Option String} (h : ∀ s, name = some s → Script.Unquoted s) :
    Script.Unquoted (name.getD "") := by
  cases name with
  | none => exact (by decide : '"' ∉ "".toList)
  | some s => exact h s rfl

theorem Unquoted.lead (h : outline.Unquoted) : ∀ s ∈ outline.lead, Script.Unquoted s := by
  intro s hs
  unfold Outline.lead at hs
  split at hs
  · next subject hsubject =>
      obtain ⟨hname, hvalues⟩ := h.subject subject hsubject
      rcases List.mem_cons.1 hs with rfl | hs
      · exact Script.Unquoted.append (by decide : '"' ∉ "A ".toList) hname
      · split at hs
        · exact absurd hs List.not_mem_nil
        · rw [List.mem_singleton.1 hs]
          exact unquoted_joined (by decide : '"' ∉ ", ".toList) hvalues
  · simp only at hs
    split at hs
    · exact absurd hs List.not_mem_nil
    · rw [List.mem_singleton.1 hs]
      exact Script.Unquoted.append (by decide : '"' ∉ "A scene of ".toList)
        (Unquoted.getD fun name hname => h.names name (Or.inl hname))

theorem Unquoted.place (h : outline.Unquoted) : ∀ s ∈ outline.place, Script.Unquoted s := by
  intro s hs
  rcases List.mem_append.1 hs with hs | hs
  · split at hs
    · exact absurd hs List.not_mem_nil
    · rw [List.mem_singleton.1 hs]
      exact Script.Unquoted.append (by decide : '"' ∉ "in a ".toList)
        (Unquoted.getD fun name hname => h.names name (Or.inr hname))
  · exact h.values .scene s hs

theorem Unquoted.details (h : outline.Unquoted) : ∀ s ∈ outline.details, Script.Unquoted s := by
  have hlabels : ∀ entry ∈ detailLabels, '"' ∉ entry.2.toList := by decide
  intro s hs
  unfold Outline.details at hs
  simp only at hs
  split at hs
  · exact absurd hs List.not_mem_nil
  · rw [List.mem_singleton.1 hs]
    refine unquoted_joined (by decide : '"' ∉ ", ".toList) fun told htold => ?_
    obtain ⟨⟨part, label⟩, hentry, htold⟩ := List.mem_filterMap.1 htold
    split at htold
    · simp at htold
    · obtain rfl := Option.some.inj htold
      have hlabel : Script.Unquoted (label ++ ": (") :=
        Script.Unquoted.append (hlabels _ hentry) (by decide : '"' ∉ ": (".toList)
      have hjoined : Script.Unquoted (", ".intercalate (outline.group part).values) :=
        unquoted_joined (by decide : '"' ∉ ", ".toList) (h.values part)
      exact (hlabel.append hjoined).append (by decide : '"' ∉ ")".toList)

theorem foldCommas_sublist (folding : Bool) (cs : List Char) : (foldCommas folding cs).Sublist cs := by
  induction cs generalizing folding with
  | nil => cases folding <;> exact List.Sublist.refl _
  | cons c cs ih =>
      rw [foldCommas]
      split
      · exact (ih true).cons c
      · split
        · exact (ih true).cons c
        · exact (ih false).cons_cons c

theorem Unquoted.prompt (h : outline.Unquoted) : Script.Unquoted outline.prompt := by
  have hsegments : ∀ s ∈ outline.segments.filter fun segment => !blank segment, Script.Unquoted s := by
    intro s hs
    rcases List.mem_append.1 (List.mem_of_mem_filter hs) with hs | hs
    · rcases List.mem_append.1 hs with hs | hs
      · exact h.lead s hs
      · exact h.place s hs
    · exact h.details s hs
  have hjoined := unquoted_joined (by decide : '"' ∉ ", ".toList) hsegments
  exact unquoted_ofList fun hmem => hjoined ((foldCommas_sublist _ _).subset hmem)

end Outline

/-! ## Texts that say nothing -/

/-- A `create` block has a quote, and so has a `set` block with a name or a property. -/
theorem scan_subject_of_unquoted {cs : List Char} (h : '"' ∉ cs) : scanAll subject? cs = [] := by
  refine List.eq_nil_iff_forall_not_mem.2 fun subject hsubject => ?_
  obtain ⟨_, suffix, _, hsuffix, hfound⟩ := exists_recognise_of_mem_scan hsubject
  obtain ⟨_, _, _, _, hframed, _⟩ := subject?_eq_some_iff.1 hfound
  cases hframed with
  | intro _ _ htitle _ _ =>
      cases htitle with
      | named _ _ => exact h (hsuffix.subset (by simp))

theorem setting_of_unquoted {cs : List Char} (h : '"' ∉ cs) {setting : Setting}
    (hsetting : setting ∈ scanAll setting? cs) : setting.name = none ∧ setting.properties = [] := by
  obtain ⟨_, suffix, _, hsuffix, hfound⟩ := exists_recognise_of_mem_scan hsetting
  obtain ⟨_, _, _, _, hframed, rfl⟩ := setting?_eq_some_iff.1 hfound
  cases hframed with
  | intro _ _ htitle _ _ =>
      cases htitle with
      | named _ _ => exact absurd (hsuffix.subset (by simp)) h
      | unnamed => exact ⟨rfl, properties_eq_nil fun hmem => h (hsuffix.subset (by simp [hmem]))⟩

theorem silent_ofBlocks {subjects : List Subject} {settings : List Setting} (part : Part)
    (h : ∀ setting ∈ settings, setting.name = none ∧ setting.properties = []) :
    Outline.silent ((Outline.ofBlocks subjects settings).group part) = true := by
  have hproperties : ((Outline.ofBlocks subjects settings).group part).properties = [] := by
    rw [Outline.properties_ofBlocks, List.flatMap_eq_nil_iff]
    exact fun setting hsetting => (h setting (List.mem_of_mem_filter hsetting)).2
  have hname : ((Outline.ofBlocks subjects settings).group part).name = none := by
    by_cases hscene : part = .scene
    · subst hscene
      have hnames : (Outline.settingsOf .scene settings).filterMap Setting.name = [] :=
        List.filterMap_eq_nil_iff.2 fun setting hsetting => (h setting (List.mem_of_mem_filter hsetting)).1
      refine (Outline.scene_ofBlocks subjects settings).2.trans ?_
      rw [hnames, List.getLast?_nil]
    · exact (Outline.names_ofBlocks_of_ne_scene subjects settings hscene).2
  rw [Outline.silent, hproperties, hname]
  rfl

theorem isEmpty_ofScript_of_unquoted {script : String} (h : Unquoted script) :
    (Outline.ofScript script).isEmpty = true := by
  have hflat : '"' ∉ flatten script.toList := fun hmem => (mem_flatten hmem).elim h (by decide)
  have hsubject : (Outline.ofScript script).subject = none := by
    refine (Outline.subject_ofBlocks (scanAll subject? (flatten script.toList)) _).1.trans ?_
    rw [scan_subject_of_unquoted hflat, List.head?_nil]
  rw [Outline.isEmpty, hsubject, Option.isNone_none, Bool.true_and, List.all_eq_true]
  exact fun part _ => silent_ofBlocks part fun setting hsetting => setting_of_unquoted hflat hsetting

end PromptCanvas.Script
