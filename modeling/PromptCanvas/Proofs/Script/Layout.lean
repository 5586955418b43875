import PromptCanvas.Proofs.Script.Phrase
import PromptCanvas.Script.Layout

set_option autoImplicit false

/-! # Laid out blocks

However a block is laid out, nothing starts within it: its words stand before white space and marks, and its
quoted texts are shut. At its keyword starts the block itself if its name is set apart, with everything up to
the next closing brace for its body, and nothing otherwise. -/

namespace PromptCanvas.Script

open Text

variable {rest : List Char}

/-! ## White space -/

theorem Space.not_mem (space : Space) {mark : Char} (h : isBlank mark = false) : mark ∉ space.chars := by
  intro hmem
  rw [space.blank mark hmem] at h
  exact Bool.noConfusion h

theorem Space.not_isWord (space : Space) : ∀ c ∈ space.chars, isWord c = false := fun c hc =>
  not_isWord_of_isBlank (space.blank c hc)

theorem Space.gap (space : Space) (h : space.chars ≠ []) : Gap space.chars := ⟨h, space.blank⟩

theorem Space.not_isWord_mark (space : Space) {mark : Char} (h : isWord mark = false) :
    ∀ c ∈ space.chars ++ [mark], isWord c = false := by
  intro c hc
  rcases List.mem_append.1 hc with hc | hc
  · exact space.not_isWord c hc
  · rw [List.mem_singleton.1 hc]
    exact h

/-! ## Keywords -/

theorem Heading.run_keyword (heading : Heading) : Run heading.keyword.toList := by
  cases heading with
  | create kind name => exact run_create
  | set kind name => exact run_set

/-- The keyword of a heading is a word. -/
def Heading.word (heading : Heading) : Word where
  text := heading.keyword
  nonempty := fun h => heading.run_keyword.1 (String.toList_eq_nil_iff.2 h)
  plain := heading.run_keyword.2

/-! ## Shut texts -/

theorem LaidEntry.shut (laid : LaidEntry) (rest : List Char) : Shut (laid.chars ++ rest) := by
  have hsplit : laid.chars ++ rest
      = (laid.beforeLabel.chars ++ (laid.entry.label.text.toList
          ++ (laid.beforeColon.chars ++ ':' :: laid.beforeText.chars)))
        ++ '"' :: (laid.entry.text.text.toList ++ '"' :: (laid.beforeSemicolon.chars ++ ';' :: rest)) := by
    simp [LaidEntry.chars]
  rw [hsplit]
  refine (shut_quote (laid.entry.text.not_mem (by decide)) (laid.entry.text.not_mem (by decide))).append ?_
  simp [Space.not_mem, Word.not_mem, (by decide : isBlank '"' = false), (by decide : isWord '"' = false)]

namespace OpenBlock

variable (laid : OpenBlock)

theorem shut_body (h : Shut rest) : Shut (laid.bodyChars ++ rest) := by
  unfold bodyChars
  cases laid.entries with
  | nil => exact h
  | cons entry entries =>
      rw [List.flatMap_cons, List.append_assoc]
      exact entry.shut _

theorem titleChars_append_of_none (h : laid.heading.name? = none) (more : List Char) :
    laid.titleChars ++ more = more := by
  simp [titleChars, h]

theorem titleChars_append_of_some {name : Phrase} (h : laid.heading.name? = some name)
    (more : List Char) :
    laid.titleChars ++ more
      = laid.beforeName.chars ++ '"' :: (name.text.toList ++ '"' :: more) := by
  simp [titleChars, h]

theorem shut_title (h : Shut rest) : Shut (laid.titleChars ++ rest) := by
  cases hname : laid.heading.name? with
  | none =>
      rw [laid.titleChars_append_of_none hname]
      exact h
  | some name =>
      rw [laid.titleChars_append_of_some hname]
      exact (shut_quote (name.not_mem (by decide)) (name.not_mem (by decide))).append
        (laid.beforeName.not_mem (by decide))

theorem shut_brace (h : Shut rest) :
    Shut (laid.beforeBrace.chars ++ '{' :: laid.bodyChars ++ rest) := by
  have hsplit : laid.beforeBrace.chars ++ '{' :: laid.bodyChars ++ rest
      = (laid.beforeBrace.chars ++ ['{']) ++ (laid.bodyChars ++ rest) := by simp
  rw [hsplit]
  refine (laid.shut_body h).append ?_
  simp [Space.not_mem, (by decide : isBlank '"' = false)]

theorem shut (h : Shut rest) : Shut (laid.chars ++ rest) := by
  have hsplit : laid.chars ++ rest
      = (laid.beforeKeyword.chars ++ (laid.heading.keyword.toList
          ++ (laid.beforeKind.chars ++ laid.heading.kind.text.toList)))
        ++ (laid.titleChars ++ (laid.beforeBrace.chars ++ '{' :: laid.bodyChars ++ rest)) := by
    simp [chars, headChars]
  rw [hsplit]
  refine (laid.shut_title (laid.shut_brace h)).append ?_
  have hkeyword : '"' ∉ laid.heading.keyword.toList := laid.heading.word.not_mem (by decide)
  simp [Space.not_mem, Word.not_mem, hkeyword, (by decide : isBlank '"' = false),
    (by decide : isWord '"' = false)]

end OpenBlock

namespace LaidBlock

variable (laid : LaidBlock)

theorem chars_append (more : List Char) :
    laid.chars ++ more = laid.toOpenBlock.chars ++ (laid.beforeEnd.chars ++ '}' :: more) := by
  simp [chars, innerChars]

theorem shut_end (h : Shut rest) : Shut (laid.beforeEnd.chars ++ '}' :: rest) := by
  have hsplit : laid.beforeEnd.chars ++ '}' :: rest = (laid.beforeEnd.chars ++ ['}']) ++ rest := by simp
  rw [hsplit]
  exact h.append (by simp [Space.not_mem, (by decide : isBlank '"' = false)])

theorem shut (h : Shut rest) : Shut (laid.chars ++ rest) := by
  rw [chars_append]
  exact laid.toOpenBlock.shut (laid.shut_end h)

end LaidBlock

theorem shut_document (document : List LaidBlock) (h : Shut rest) :
    Shut (document.flatMap LaidBlock.chars ++ rest) := by
  induction document with
  | nil => exact h
  | cons laid document ih =>
      rw [List.flatMap_cons, List.append_assoc]
      exact laid.shut ih

theorem legibleBlocks_cons (laid : LaidBlock) (document : List LaidBlock) :
    legibleBlocks (laid :: document)
      = if laid.legible then laid.block :: legibleBlocks document else legibleBlocks document := by
  unfold legibleBlocks
  rw [List.filter_cons]
  split <;> rfl

/-! ## Idle texts -/

section

variable {word : String} (hword : Run word.toList)
include hword

theorem LaidEntry.idle (laid : LaidEntry) (h : Shut rest) : Idle word laid.chars rest := by
  have hend : Idle word (laid.beforeSemicolon.chars ++ [';']) rest :=
    idle_marks hword (laid.beforeSemicolon.not_isWord_mark (by decide))
  have hshut : Shut (laid.beforeSemicolon.chars ++ [';'] ++ rest) :=
    h.append (by simp [Space.not_mem, (by decide : isBlank '"' = false)])
  have htext := (idle_marks hword laid.beforeText.not_isWord).append
    (laid.entry.text.idle hword hend hshut)
  have hcolon := (idle_marks hword laid.beforeColon.not_isWord).append
    (htext.cons hword (by decide : isWord ':' = false))
  have hlabel := laid.entry.label.idle hword laid.beforeColon.chars laid.beforeColon.blank (by decide)
    (by decide) hcolon
  exact (idle_marks hword laid.beforeLabel.not_isWord).append hlabel

namespace OpenBlock

variable (laid : OpenBlock)

theorem idle_body (h : Shut rest) : Idle word laid.bodyChars rest := by
  have hentries : ∀ entries : List LaidEntry, Idle word (entries.flatMap LaidEntry.chars) rest ∧
      Shut (entries.flatMap LaidEntry.chars ++ rest) := by
    intro entries
    induction entries with
    | nil => exact ⟨idle_marks hword (by simp), h⟩
    | cons entry entries ih =>
        obtain ⟨hidle, hshut⟩ := ih
        rw [List.flatMap_cons]
        refine ⟨(entry.idle hword hshut).append hidle, ?_⟩
        rw [List.append_assoc]
        exact entry.shut _
  exact (hentries laid.entries).1

theorem idle_title {piece : List Char} (h : Idle word piece rest) (hrest : Shut (piece ++ rest)) :
    Idle word (laid.titleChars ++ piece) rest := by
  cases hname : laid.heading.name? with
  | none =>
      rw [laid.titleChars_append_of_none hname]
      exact h
  | some name =>
      rw [laid.titleChars_append_of_some hname]
      exact (idle_marks hword laid.beforeName.not_isWord).append (name.idle hword h hrest)

/-- Nothing starts between the keyword of a block and its end. -/
theorem idle_tail (h : Shut rest) : Idle word (laid.headChars ++ laid.bodyChars) rest := by
  have hbrace : Idle word (laid.beforeBrace.chars ++ '{' :: laid.bodyChars) rest :=
    (idle_marks hword laid.beforeBrace.not_isWord).append
      ((laid.idle_body hword h).cons hword (by decide : isWord '{' = false))
  have htitle := laid.idle_title hword hbrace (laid.shut_brace h)
  -- behind the kind stands white space at most, and behind that a quote or a brace
  have hkind : Idle word (laid.heading.kind.text.toList
      ++ (laid.titleChars ++ (laid.beforeBrace.chars ++ '{' :: laid.bodyChars))) rest := by
    cases hname : laid.heading.name? with
    | none =>
        rw [laid.titleChars_append_of_none hname] at htitle ⊢
        exact laid.heading.kind.idle hword _ laid.beforeBrace.blank (by decide) (by decide) htitle
    | some name =>
        rw [laid.titleChars_append_of_some hname] at htitle ⊢
        exact laid.heading.kind.idle hword _ laid.beforeName.blank (by decide) (by decide) htitle
  have hsplit : laid.headChars ++ laid.bodyChars = laid.beforeKind.chars
      ++ (laid.heading.kind.text.toList
        ++ (laid.titleChars ++ (laid.beforeBrace.chars ++ '{' :: laid.bodyChars))) := by
    simp [headChars]
  rw [hsplit]
  exact (idle_marks hword laid.beforeKind.not_isWord).append hkind

end OpenBlock

end

/-! ## Frames -/

namespace OpenBlock

variable (laid : OpenBlock)

/-- The name of a block, as it is read. -/
def nameChars : Option (List Char) := laid.heading.name?.map fun name => name.text.toList

theorem headChars_append (more : List Char) :
    laid.headChars ++ more = laid.beforeKind.chars ++ (laid.heading.kind.text.toList
      ++ (laid.titleChars ++ (laid.beforeBrace.chars ++ '{' :: more))) := by
  simp [headChars]

theorem title_of_titled (h : laid.titled = true) : Title laid.nameChars laid.titleChars := by
  unfold titled at h
  unfold nameChars titleChars
  cases hname : laid.heading.name? with
  | none => exact .unnamed
  | some name =>
      have hapart : laid.beforeName.chars ≠ [] := by simpa [hname] using h
      exact .named (laid.beforeName.gap hapart) name.inner

/-- A title up to the brace can be read in one way, and only if the name is set apart. -/
theorem title_inj {name : Option (List Char)} {title space more more' : List Char}
    (htitle : Title name title) (hspace : ∀ c ∈ space, isBlank c = true)
    (h : laid.titleChars ++ (laid.beforeBrace.chars ++ '{' :: more) = title ++ (space ++ '{' :: more')) :
    laid.titled = true ∧ name = laid.nameChars ∧ more = more' := by
  cases hname : laid.heading.name? with
  | none =>
      rw [laid.titleChars_append_of_none hname] at h
      cases htitle with
      | unnamed =>
          rw [List.nil_append] at h
          have hbrace := (span_unique h laid.beforeBrace.blank (head?_cons_not (by decide)) hspace
            (head?_cons_not (by decide))).2
          exact ⟨by simp [titled, hname], by simp [nameChars, hname], (List.cons.inj hbrace).2⟩
      | named hgap hinner =>
          rw [List.append_assoc] at h
          have hmarks := (span_unique h laid.beforeBrace.blank (head?_cons_not (by decide)) hgap.2
            (head?_cons_not (by decide))).2
          exact absurd (List.cons.inj hmarks).1 (by decide)
  | some phrase =>
      rw [laid.titleChars_append_of_some hname] at h
      cases htitle with
      | unnamed =>
          rw [List.nil_append] at h
          have hmarks := (span_unique h laid.beforeName.blank (head?_cons_not (by decide)) hspace
            (head?_cons_not (by decide))).2
          exact absurd (List.cons.inj hmarks).1 (by decide)
      | @named gap name hgap hinner =>
          rw [List.append_assoc] at h
          obtain ⟨hsame, hquote⟩ := span_unique h laid.beforeName.blank (head?_cons_not (by decide)) hgap.2
            (head?_cons_not (by decide))
          have hnames : phrase.text.toList ++ '"' :: (laid.beforeBrace.chars ++ '{' :: more)
              = name ++ '"' :: (space ++ '{' :: more') := by simpa using (List.cons.inj hquote).2
          obtain ⟨hphrase, hbehind⟩ := append_mark_inj hnames phrase.inner.2 hinner.2
          have hbrace := (span_unique hbehind laid.beforeBrace.blank (head?_cons_not (by decide)) hspace
            (head?_cons_not (by decide))).2
          have hapart : laid.beforeName.chars ≠ [] := by
            rw [hsame]
            exact hgap.1
          exact ⟨by simp [titled, hapart], by simp [nameChars, hname, hphrase], (List.cons.inj hbrace).2⟩

/-- What stands behind the kind of a block does not go on with a word. -/
theorem not_isWord_title (more : List Char) :
    ∀ c ∈ (laid.titleChars ++ (laid.beforeBrace.chars ++ '{' :: more)).head?, isWord c = false := by
  cases hname : laid.heading.name? with
  | none =>
      rw [laid.titleChars_append_of_none hname]
      exact not_isWord_head?_blanks laid.beforeBrace.blank (by decide)
  | some name =>
      rw [laid.titleChars_append_of_some hname]
      exact not_isWord_head?_blanks laid.beforeName.blank (by decide)

/-- An opened block is framed in one way: as it says, if its name is set apart, with everything up to the
    next closing brace for its body. -/
theorem framed_iff {kind body left : List Char} {name : Option (List Char)} :
    Framed laid.heading.keyword kind name body left
        (laid.heading.keyword.toList ++ (laid.headChars ++ (laid.bodyChars ++ rest))) ↔
      laid.titled = true ∧ kind = laid.heading.kind.text.toList ∧ name = laid.nameChars ∧
        Inner '}' body ∧ laid.bodyChars ++ rest = body ++ '}' :: left := by
  rw [headChars_append]
  constructor
  · intro h
    generalize htext : laid.heading.keyword.toList ++ (laid.beforeKind.chars
      ++ (laid.heading.kind.text.toList ++ (laid.titleChars
        ++ (laid.beforeBrace.chars ++ '{' :: (laid.bodyChars ++ rest))))) = text at h
    cases h with
    | @intro gap title space hgap hkind htitle hspace hbody =>
        have hbehind := List.append_cancel_left htext
        obtain ⟨rfl, hkinds⟩ := span_unique hbehind laid.beforeKind.blank
          (laid.heading.kind.run.not_isBlank_head? _) hgap.2 (hkind.not_isBlank_head? _)
        have htitled : Titled name body left
            (title ++ (space ++ '{' :: (body ++ '}' :: left))) :=
          ⟨hbody, title, space, htitle, hspace, rfl⟩
        obtain ⟨rfl, htitles⟩ := span_unique hkinds laid.heading.kind.plain (laid.not_isWord_title _)
          hkind.2 htitled.not_isWord_head?
        obtain ⟨happart, hname, hmore⟩ := laid.title_inj htitle hspace htitles
        exact ⟨happart, rfl, hname, hbody, hmore⟩
  · rintro ⟨htitled, rfl, rfl, hbody, hsplit⟩
    rw [hsplit]
    exact .intro (laid.beforeKind.gap laid.apart) laid.heading.kind.run (laid.title_of_titled htitled)
      laid.beforeBrace.blank hbody

/-- No block starts within an opened one unless the block itself does: with another keyword none does, and
    with its own one it must have a name that is set apart and a body that ends. -/
theorem idle {word : String} (hword : Run word.toList) (h : Shut rest)
    (hother : laid.heading.keyword ≠ word → ¬ word.toList <:+ laid.heading.keyword.toList)
    (hopens : laid.heading.keyword = word → laid.titled = true → ∀ inner left, Inner '}' inner →
      laid.bodyChars ++ rest ≠ inner ++ '}' :: left) : Idle word laid.chars rest := by
  have hstop : ∀ c ∈ (laid.headChars ++ laid.bodyChars ++ rest).head?, isWord c = false := by
    rw [List.append_assoc, headChars_append]
    exact (laid.beforeKind.gap laid.apart).not_isWord_head? _
  have hkeyword : Idle word laid.heading.keyword.toList (laid.headChars ++ laid.bodyChars ++ rest) := by
    by_cases hown : laid.heading.keyword = word
    · rintro suffix _ hsuffix hblock
      -- a block that starts within the keyword starts with all of it
      obtain ⟨hfull, _⟩ := hblock.keyword hword
        (fun c hc => laid.heading.word.plain c (hsuffix.subset hc)) hstop
      obtain ⟨kind, name, body, left, hframed⟩ := hblock
      rw [hfull, ← hown, List.append_assoc] at hframed
      obtain ⟨htitled, _, _, hinner, hsplit⟩ := laid.framed_iff.1 hframed
      exact hopens hown htitled body left hinner hsplit
    · exact idle_word hword laid.heading.word.plain hstop (Or.inl (hother hown))
  have hbehind := hkeyword.append (laid.idle_tail hword h)
  exact (idle_marks hword laid.beforeKeyword.not_isWord).append hbehind

end OpenBlock

end PromptCanvas.Script
