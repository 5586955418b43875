import PromptCanvas.Proofs.Script.Token

set_option autoImplicit false

/-! # The frames of blocks

Both kinds of block have one frame: a keyword, a kind, a title, and a body in braces. A `create` block must
have a name in its title, a `set` block may. The recognisers read exactly the texts that start with a
frame. -/

namespace PromptCanvas.Script

open Text

variable {cs rest left : List Char} {afterWord : Bool}

/-- A title: white space and a quoted name, or nothing. -/
inductive Title : Option (List Char) → List Char → Prop where
  | unnamed : Title none []
  | named {gap name : List Char} (hgap : Gap gap) (hname : Inner '"' name) :
      Title (some name) (gap ++ '"' :: (name ++ ['"']))

/-- A text that starts with a block, and what follows the block. -/
inductive Framed (word : String) (kind : List Char) (name : Option (List Char)) (body left : List Char) :
    List Char → Prop where
  | intro {gap title space : List Char} (hgap : Gap gap) (hkind : Run kind) (htitle : Title name title)
      (hspace : ∀ c ∈ space, isBlank c = true) (hbody : Inner '}' body) :
      Framed word kind name body left
        (word.toList ++ (gap ++ (kind ++ (title ++ (space ++ '{' :: (body ++ '}' :: left))))))

theorem head?_cons_not {p : Char → Bool} {c : Char} (h : p c = false) :
    ∀ d ∈ (c :: rest).head?, p d = false := by
  intro d hd
  rw [← Option.some.inj hd]
  exact h

/-- Behind white space stands no word if a mark follows. -/
theorem not_isWord_head?_blanks {space : List Char} {mark : Char} (hspace : ∀ c ∈ space, isBlank c = true)
    (hmark : isWord mark = false) : ∀ c ∈ (space ++ mark :: rest).head?, isWord c = false := by
  cases space with
  | nil => exact head?_cons_not hmark
  | cons c space => exact head?_cons_not (not_isWord_of_isBlank (hspace c List.mem_cons_self))

/-! ## Reading frames -/

/-- The keyword and the kind of a block. -/
def heading? (word : String) (afterWord : Bool) (cs : List Char) : Option (List Char × List Char) :=
  ((keyword? word afterWord cs).bind blanks?).bind wordRun?

theorem heading?_eq_some_iff {word : String} {kind : List Char} :
    heading? word afterWord cs = some (kind, rest) ↔
      afterWord = false ∧ Run kind ∧ (∃ gap, Gap gap ∧ cs = word.toList ++ (gap ++ (kind ++ rest))) ∧
        ∀ c ∈ rest.head?, isWord c = false := by
  simp only [heading?, Option.bind_eq_some_iff, keyword?_eq_some_iff, blanks?_eq_some_iff,
    wordRun?_eq_some_iff]
  constructor
  · rintro ⟨_, ⟨_, ⟨hafter, rfl⟩, ⟨gap, hgap, rfl⟩, _⟩, hkind, rfl, hrest⟩
    exact ⟨hafter, hkind, ⟨gap, hgap, rfl⟩, hrest⟩
  · rintro ⟨hafter, hkind, ⟨gap, hgap, rfl⟩, hrest⟩
    exact ⟨kind ++ rest, ⟨_, ⟨hafter, rfl⟩, ⟨gap, hgap, rfl⟩, hkind.not_isBlank_head? rest⟩, hkind, rfl,
      hrest⟩

theorem named_eq_some_iff {name : List Char} :
    (blanks? cs).bind quoted? = some (name, rest) ↔
      ∃ title, Title (some name) title ∧ cs = title ++ rest := by
  simp only [Option.bind_eq_some_iff, blanks?_eq_some_iff, quoted?_eq_some_iff]
  constructor
  · rintro ⟨_, ⟨⟨gap, hgap, rfl⟩, _⟩, hname, rfl⟩
    exact ⟨_, .named hgap hname, by simp⟩
  · rintro ⟨_, htitle, rfl⟩
    cases htitle with
    | named hgap hname =>
        exact ⟨'"' :: (name ++ '"' :: rest), ⟨⟨_, hgap, by simp⟩, head?_cons_not (by decide)⟩, hname, rfl⟩

theorem braced_eq_some_iff {body : List Char} :
    braced? (trimStart cs) = some (body, left) ↔
      Inner '}' body ∧
        ∃ space, (∀ c ∈ space, isBlank c = true) ∧ cs = space ++ '{' :: (body ++ '}' :: left) := by
  rw [braced?_eq_some_iff]
  refine and_congr_right fun _ => ⟨fun h => ?_, ?_⟩
  · refine ⟨cs.takeWhile isBlank, fun c hc => List.mem_takeWhile_imp hc, ?_⟩
    rw [← h]
    exact List.takeWhile_append_dropWhile.symm
  · rintro ⟨space, hspace, rfl⟩
    exact dropWhile_append_eq hspace (head?_cons_not (by decide))

theorem named_brace {space : List Char} (hspace : ∀ c ∈ space, isBlank c = true) :
    (blanks? (space ++ '{' :: rest)).bind quoted? = none := by
  refine Option.eq_none_iff_forall_ne_some.2 fun ⟨name, after⟩ h => ?_
  obtain ⟨_, htitle, heq⟩ := named_eq_some_iff.1 h
  cases htitle with
  | named hgap _ =>
      rw [List.append_assoc] at heq
      have hmarks := (span_unique heq hspace (head?_cons_not (by decide)) hgap.2
        (head?_cons_not (by decide))).2
      exact absurd (List.cons.inj hmarks).1 (by decide)

/-- A title with what follows it up to the end of the body. -/
def Titled (name : Option (List Char)) (body left cs : List Char) : Prop :=
  Inner '}' body ∧ ∃ title space, Title name title ∧ (∀ c ∈ space, isBlank c = true) ∧
    cs = title ++ (space ++ '{' :: (body ++ '}' :: left))

theorem titled_some_iff {name body : List Char} :
    (∃ after, (blanks? cs).bind quoted? = some (name, after) ∧
        braced? (trimStart after) = some (body, left)) ↔ Titled (some name) body left cs := by
  constructor
  · rintro ⟨after, hnamed, hbraced⟩
    obtain ⟨hbody, space, hspace, rfl⟩ := braced_eq_some_iff.1 hbraced
    obtain ⟨title, htitle, rfl⟩ := named_eq_some_iff.1 hnamed
    exact ⟨hbody, title, space, htitle, hspace, rfl⟩
  · rintro ⟨hbody, title, space, htitle, hspace, rfl⟩
    exact ⟨_, named_eq_some_iff.2 ⟨title, htitle, rfl⟩, braced_eq_some_iff.2 ⟨hbody, space, hspace, rfl⟩⟩

theorem titled_iff {name : Option (List Char)} {body : List Char} :
    ((settingName cs).1 = name ∧ braced? (trimStart (settingName cs).2) = some (body, left)) ↔
      Titled name body left cs := by
  cases hnamed : (blanks? cs).bind quoted? with
  | some found =>
      have hsetting : settingName cs = (some found.1, found.2) := by simp only [settingName, hnamed]
      rw [hsetting]
      constructor
      · rintro ⟨rfl, hbraced⟩
        exact titled_some_iff.1 ⟨found.2, hnamed, hbraced⟩
      · intro h
        cases name with
        | none =>
            -- a brace would stand where the name was found
            obtain ⟨_, _, space, htitle, hspace, rfl⟩ := h
            cases htitle
            rw [List.nil_append, named_brace hspace] at hnamed
            simp at hnamed
        | some name =>
            obtain ⟨after, hfound, hbraced⟩ := titled_some_iff.2 h
            rw [hnamed, Option.some.injEq] at hfound
            rw [hfound]
            exact ⟨rfl, hbraced⟩
  | none =>
      have hsetting : settingName cs = (none, cs) := by simp only [settingName, hnamed]
      rw [hsetting]
      constructor
      · rintro ⟨rfl, hbraced⟩
        obtain ⟨hbody, space, hspace, rfl⟩ := braced_eq_some_iff.1 hbraced
        exact ⟨hbody, [], space, .unnamed, hspace, rfl⟩
      · intro h
        cases name with
        | none =>
            obtain ⟨hbody, _, space, htitle, hspace, rfl⟩ := h
            cases htitle
            exact ⟨rfl, braced_eq_some_iff.2 ⟨hbody, space, hspace, rfl⟩⟩
        | some name =>
            obtain ⟨after, hfound, _⟩ := titled_some_iff.2 h
            rw [hnamed] at hfound
            simp at hfound

theorem Titled.not_isWord_head? {name : Option (List Char)} {body : List Char}
    (h : Titled name body left cs) : ∀ c ∈ cs.head?, isWord c = false := by
  obtain ⟨_, title, space, htitle, hspace, rfl⟩ := h
  cases htitle with
  | named hgap _ =>
      rw [List.append_assoc]
      exact hgap.not_isWord_head? _
  | unnamed => exact not_isWord_head?_blanks hspace (by decide)

theorem framed_iff {word : String} {kind body : List Char} {name : Option (List Char)} :
    (∃ after, heading? word afterWord cs = some (kind, after) ∧ Titled name body left after) ↔
      afterWord = false ∧ Framed word kind name body left cs := by
  constructor
  · rintro ⟨after, hheading, hbody, title, space, htitle, hspace, rfl⟩
    obtain ⟨hafter, hkind, ⟨gap, hgap, rfl⟩, _⟩ := heading?_eq_some_iff.1 hheading
    exact ⟨hafter, .intro hgap hkind htitle hspace hbody⟩
  · rintro ⟨hafter, hframed⟩
    cases hframed with
    | @intro gap title space hgap hkind htitle hspace hbody =>
        have htitled : Titled name body left (title ++ (space ++ '{' :: (body ++ '}' :: left))) :=
          ⟨hbody, title, space, htitle, hspace, rfl⟩
        exact ⟨_, heading?_eq_some_iff.2 ⟨hafter, hkind, ⟨gap, hgap, rfl⟩, htitled.not_isWord_head?⟩,
          htitled⟩

theorem subject?_eq_some_iff {subject : Subject} :
    subject? afterWord cs = some (subject, left) ↔
      afterWord = false ∧ ∃ kind name body, Framed "create" kind (some name) body left cs ∧
        subject = ⟨String.ofList kind, String.ofList name, properties body⟩ := by
  have hparts : subject? afterWord cs = (heading? "create" afterWord cs).bind fun heading =>
      ((blanks? heading.2).bind quoted?).bind fun title =>
        (braced? (trimStart title.2)).bind fun body =>
          some (⟨String.ofList heading.1, String.ofList title.1, properties body.1⟩, body.2) := by
    simp only [subject?, heading?, Option.bind_assoc, Option.bind_eq_bind]
  rw [hparts]
  constructor
  · intro h
    obtain ⟨⟨kind, after⟩, hheading, h⟩ := Option.bind_eq_some_iff.1 h
    obtain ⟨⟨name, after'⟩, hnamed, h⟩ := Option.bind_eq_some_iff.1 h
    obtain ⟨⟨body, left'⟩, hbraced, h⟩ := Option.bind_eq_some_iff.1 h
    rw [Option.some.injEq, Prod.mk.injEq] at h
    obtain ⟨rfl, rfl⟩ := h
    obtain ⟨hafter, hframed⟩ := framed_iff.1 ⟨after, hheading, titled_some_iff.1 ⟨after', hnamed, hbraced⟩⟩
    exact ⟨hafter, kind, name, body, hframed, rfl⟩
  · rintro ⟨hafter, kind, name, body, hframed, rfl⟩
    obtain ⟨after, hheading, htitled⟩ := framed_iff.2 ⟨hafter, hframed⟩
    obtain ⟨after', hnamed, hbraced⟩ := titled_some_iff.2 htitled
    rw [hheading, Option.bind_some, hnamed, Option.bind_some, hbraced, Option.bind_some]

theorem setting?_eq_some_iff {setting : Setting} :
    setting? afterWord cs = some (setting, left) ↔
      afterWord = false ∧ ∃ kind name body, Framed "set" kind name body left cs ∧
        setting = ⟨String.ofList kind, name.map String.ofList, properties body⟩ := by
  have hparts : setting? afterWord cs = (heading? "set" afterWord cs).bind fun heading =>
      (braced? (trimStart (settingName heading.2).2)).bind fun body =>
        some (⟨String.ofList heading.1, (settingName heading.2).1.map String.ofList,
          properties body.1⟩, body.2) := by
    simp only [setting?, heading?, Option.bind_assoc, Option.bind_eq_bind]
  rw [hparts]
  constructor
  · intro h
    obtain ⟨⟨kind, after⟩, hheading, h⟩ := Option.bind_eq_some_iff.1 h
    obtain ⟨⟨body, left'⟩, hbraced, h⟩ := Option.bind_eq_some_iff.1 h
    rw [Option.some.injEq, Prod.mk.injEq] at h
    obtain ⟨rfl, rfl⟩ := h
    obtain ⟨hafter, hframed⟩ := framed_iff.1 ⟨after, hheading, titled_iff.1 ⟨rfl, hbraced⟩⟩
    exact ⟨hafter, kind, _, body, hframed, rfl⟩
  · rintro ⟨hafter, kind, name, body, hframed, rfl⟩
    obtain ⟨after, hheading, htitled⟩ := framed_iff.2 ⟨hafter, hframed⟩
    obtain ⟨hname, hbraced⟩ := titled_iff.2 htitled
    rw [hheading, Option.bind_some, hbraced, Option.bind_some, hname]

end PromptCanvas.Script
