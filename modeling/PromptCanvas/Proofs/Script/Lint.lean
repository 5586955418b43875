import PromptCanvas.Proofs.Script.Line
import PromptCanvas.Script.Lint

set_option autoImplicit false

/-! # What the linter reports

A line is reported when it ends in the closing quote of a property, but for white space. Comments are read like
the rest of a line. So a line with a comment is reported where the comment ends so, be it that the property is
opened before the comment or in it, and not where the text before the comment does. -/

namespace PromptCanvas.Script

open Text

variable {cs rest line front back : List Char} {flagged flagged' : List Char → Bool} {first : Nat}
variable {lines : List (List Char)}

/-! ## Numbers of lines -/

theorem mem_flaggedLines_iff {n : Nat} :
    n ∈ flaggedLines flagged first lines ↔
      ∃ k line, lines[k]? = some line ∧ flagged line = true ∧ n = first + k := by
  induction lines generalizing first with
  | nil => simp [flaggedLines]
  | cons line lines ih =>
      have hcons : n ∈ flaggedLines flagged first (line :: lines) ↔
          (flagged line = true ∧ n = first) ∨ n ∈ flaggedLines flagged (first + 1) lines := by
        rw [flaggedLines]
        split
        · next h => simp [h]
        · next h => simp [h]
      rw [hcons, ih]
      constructor
      · rintro (⟨hflagged, rfl⟩ | ⟨k, later, hk, hflagged, rfl⟩)
        · exact ⟨0, line, rfl, hflagged, rfl⟩
        · exact ⟨k + 1, later, hk, hflagged, by omega⟩
      · rintro ⟨k, later, hk, hflagged, rfl⟩
        cases k with
        | zero =>
            obtain rfl := Option.some.inj hk
            exact Or.inl ⟨hflagged, rfl⟩
        | succ k => exact Or.inr ⟨k, later, hk, hflagged, by omega⟩

/-- Lines are told in their order, and each once. -/
theorem pairwise_flaggedLines (flagged : List Char → Bool) (first : Nat) (lines : List (List Char)) :
    (flaggedLines flagged first lines).Pairwise (· < ·) := by
  induction lines generalizing first with
  | nil => exact List.Pairwise.nil
  | cons line lines ih =>
      rw [flaggedLines]
      split
      · refine List.pairwise_cons.2 ⟨fun n hn => ?_, ih (first + 1)⟩
        obtain ⟨k, _, _, _, rfl⟩ := mem_flaggedLines_iff.1 hn
        omega
      · exact ih (first + 1)

theorem flaggedLines_map (change : List Char → List Char) (first : Nat) (lines : List (List Char)) :
    flaggedLines flagged first (lines.map change)
      = flaggedLines (fun line => flagged (change line)) first lines := by
  induction lines generalizing first with
  | nil => rfl
  | cons line lines ih => rw [List.map_cons, flaggedLines, flaggedLines, ih]

theorem add_mem_flaggedLines_iff {k : Nat} (hk : lines[k]? = some line) :
    first + k ∈ flaggedLines flagged first lines ↔ flagged line = true := by
  rw [mem_flaggedLines_iff]
  constructor
  · rintro ⟨k', later, hk', hflagged, heq⟩
    obtain rfl : k = k' := Nat.add_left_cancel heq
    rwa [Option.some.inj (hk.symm.trans hk')]
  · exact fun hflagged => ⟨k, line, hk, hflagged, rfl⟩

theorem flaggedLines_congr (h : ∀ line ∈ lines, flagged line = flagged' line) :
    flaggedLines flagged first lines = flaggedLines flagged' first lines := by
  induction lines generalizing first with
  | nil => rfl
  | cons line lines ih =>
      obtain ⟨hline, hlines⟩ := List.forall_mem_cons.1 h
      rw [flaggedLines, flaggedLines, hline, ih hlines]

/-- The same lines are told exactly where every line is picked by both or by none. -/
theorem flaggedLines_eq_iff :
    flaggedLines flagged first lines = flaggedLines flagged' first lines ↔
      ∀ line ∈ lines, flagged line = flagged' line := by
  refine ⟨fun h line hline => ?_, flaggedLines_congr⟩
  obtain ⟨k, hk⟩ := List.mem_iff_getElem?.1 hline
  rw [Bool.eq_iff_iff, ← add_mem_flaggedLines_iff hk, h, add_mem_flaggedLines_iff hk]

/-! ## Properties that are opened -/

/-- What a property starts with: a label, a colon and a quote, with any white space between them. -/
def PropertyStart (cs : List Char) : Prop :=
  ∃ label space gap, Run label ∧ Blank space ∧ Blank gap ∧ cs = label ++ (space ++ ':' :: (gap ++ ['"']))

/-- A property starts somewhere in a text. -/
def StartsProperty (cs : List Char) : Prop := ∃ start, PropertyStart start ∧ start <:+: cs

/-- A text ends in the closing quote of a property, but for white space. -/
def Unterminated (line : List Char) : Prop :=
  ∃ body space, line = body ++ '"' :: space ∧ StartsProperty body ∧ Blank space

theorem StartsProperty.mono {cs' : List Char} (h : StartsProperty cs) (hcs : cs <:+: cs') :
    StartsProperty cs' := by
  obtain ⟨start, hstart, hinfix⟩ := h
  exact ⟨start, hstart, hinfix.trans hcs⟩

theorem trimStart_eq_cons_iff {mark : Char} (hmark : isBlank mark = false) :
    trimStart cs = mark :: rest ↔ ∃ space, Blank space ∧ cs = space ++ mark :: rest := by
  constructor
  · intro h
    refine ⟨cs.takeWhile isBlank, fun c hc => List.mem_takeWhile_imp hc, ?_⟩
    rw [← h]
    exact List.takeWhile_append_dropWhile.symm
  · rintro ⟨space, hspace, rfl⟩
    exact dropWhile_append_eq hspace (by simpa using hmark)

theorem opensText_iff : opensText cs = true ↔ ∃ gap rest, Blank gap ∧ cs = ':' :: (gap ++ '"' :: rest) := by
  cases cs with
  | nil => simp [opensText]
  | cons c cs =>
      by_cases hc : c = ':'
      · subst hc
        have hquote : isBlank '"' = false := by decide
        simp only [opensText, beq_iff_eq, List.head?_eq_some_iff, trimStart_eq_cons_iff hquote, List.cons.injEq,
          true_and]
        exact exists_comm
      · have hnone : opensText (c :: cs) = false := by
          unfold opensText
          split
          · next heq => exact absurd (List.cons.inj heq).1 hc
          · rfl
        simp [hnone, hc]

theorem opensText_trimStart_iff :
    opensText (trimStart cs) = true ↔
      ∃ space gap rest, Blank space ∧ Blank gap ∧ cs = space ++ ':' :: (gap ++ '"' :: rest) := by
  have hcolon : isBlank ':' = false := by decide
  rw [opensText_iff]
  constructor
  · rintro ⟨gap, rest, hgap, htrim⟩
    obtain ⟨space, hspace, heq⟩ := (trimStart_eq_cons_iff hcolon).1 htrim
    exact ⟨space, gap, rest, hspace, hgap, heq⟩
  · rintro ⟨space, gap, rest, hspace, hgap, heq⟩
    exact ⟨gap, rest, hgap, (trimStart_eq_cons_iff hcolon).2 ⟨space, hspace, heq⟩⟩

/-- A property is opened where one starts: of its label the last character is enough. -/
theorem opensProperty_iff : opensProperty cs = true ↔ StartsProperty cs := by
  induction cs with
  | nil =>
      refine iff_of_false (by simp [opensProperty]) ?_
      rintro ⟨start, ⟨label, space, gap, hlabel, _, _, rfl⟩, hinfix⟩
      exact hlabel.1 (List.append_eq_nil_iff.1 (List.infix_nil.1 hinfix)).1
  | cons c cs ih =>
      rw [opensProperty, Bool.or_eq_true, Bool.and_eq_true, opensText_trimStart_iff, ih]
      constructor
      · rintro (⟨hword, space, gap, rest, hspace, hgap, rfl⟩ | hlater)
        · have hlabel : Run [c] := ⟨List.cons_ne_nil c [], List.forall_mem_singleton.2 hword⟩
          exact ⟨_, ⟨[c], space, gap, hlabel, hspace, hgap, rfl⟩, [], rest, by simp⟩
        · exact hlater.mono (List.suffix_cons c cs).isInfix
      · rintro ⟨start, hstart, hinfix⟩
        rcases List.infix_cons_iff.1 hinfix with ⟨rest, hprefix⟩ | hlater
        · obtain ⟨label, space, gap, ⟨hne, hword⟩, hspace, hgap, rfl⟩ := hstart
          obtain ⟨d, label, rfl⟩ := List.exists_cons_of_ne_nil hne
          obtain ⟨hd, hlabel⟩ := List.forall_mem_cons.1 hword
          obtain ⟨rfl, rfl⟩ := List.cons.inj hprefix
          by_cases hempty : label = []
          · subst hempty
            exact Or.inl ⟨hd, space, gap, rest, hspace, hgap, by simp⟩
          · exact Or.inr ⟨_, ⟨label, space, gap, ⟨hempty, hlabel⟩, hspace, hgap, rfl⟩, [], rest, by simp⟩
        · exact Or.inr ⟨start, hstart, hlater⟩

theorem PropertyStart.not_isBlank_head? (h : PropertyStart cs) (rest : List Char) :
    ∀ c ∈ (cs ++ rest).head?, isBlank c = false := by
  obtain ⟨label, space, gap, hlabel, _, _, rfl⟩ := h
  rw [List.append_assoc]
  exact hlabel.not_isBlank_head? _

theorem trim_append_quote {start after space : List Char} (hstart : PropertyStart start) (hspace : Blank space)
    (before : List Char) :
    trim (before ++ (start ++ (after ++ '"' :: space))) = trimStart before ++ (start ++ after) ++ ['"'] := by
  have hlast : ∀ c ∈ (trimStart before ++ (start ++ after) ++ ['"']).getLast?, isBlank c = false := by
    rw [List.getLast?_concat]
    rintro _ ⟨⟩
    decide
  rw [← trimEnd_append hlast hspace, trim, trimStart_append (hstart.not_isBlank_head? _)]
  simp

/-- The linter reports a line that ends like an unterminated property. -/
theorem unterminated_iff : unterminated line = true ↔ Unterminated line := by
  simp only [unterminated, Bool.and_eq_true, beq_iff_eq, opensProperty_iff]
  constructor
  · rintro ⟨hlast, hstarts⟩
    obtain ⟨before, after, _, hafter, hline⟩ := exists_eq_append_trim line
    rw [← List.dropLast_append_getLast? _ hlast] at hline
    exact ⟨before ++ (trim line).dropLast, after, hline.trans (by simp),
      hstarts.mono (List.suffix_append before _).isInfix, hafter⟩
  · rintro ⟨_, space, rfl, ⟨start, hstart, before, after, rfl⟩, hspace⟩
    have htrim := @trim_append_quote start after space hstart hspace before
    simp only [← List.append_assoc] at htrim
    rw [htrim, List.getLast?_concat, List.dropLast_concat]
    exact ⟨rfl, start, hstart, trimStart before, after, rfl⟩

/-! ## Comments -/

theorem PropertyStart.slash_not_mem (h : PropertyStart cs) : '/' ∉ cs := by
  obtain ⟨label, space, gap, ⟨_, hword⟩, hspace, hgap, rfl⟩ := h
  have hnoblank : ∀ {blanks : List Char}, Blank blanks → '/' ∉ blanks := fun hblank hmem =>
    absurd (hblank '/' hmem) (by decide)
  have hlabel : '/' ∉ label := fun hmem => absurd (hword '/' hmem) (by decide)
  simp [hlabel, hnoblank hspace, hnoblank hgap]

theorem startsProperty_append_slash_iff :
    StartsProperty (front ++ '/' :: back) ↔ StartsProperty front ∨ StartsProperty back := by
  constructor
  · rintro ⟨start, hstart, hinfix⟩
    have hside := (infix_append_cons_iff hstart.slash_not_mem).1 hinfix
    exact hside.imp (⟨start, hstart, ·⟩) (⟨start, hstart, ·⟩)
  · rintro (⟨start, hstart, hinfix⟩ | ⟨start, hstart, hinfix⟩)
    · exact ⟨start, hstart, (infix_append_cons_iff hstart.slash_not_mem).2 (Or.inl hinfix)⟩
    · exact ⟨start, hstart, (infix_append_cons_iff hstart.slash_not_mem).2 (Or.inr hinfix)⟩

/-- A property that is opened around a comment mark is opened on one side of it. -/
theorem startsProperty_append_comment_iff :
    StartsProperty (front ++ '/' :: '/' :: back) ↔ StartsProperty front ∨ StartsProperty back := by
  have hnone : ¬ StartsProperty [] := fun h => Bool.noConfusion (opensProperty_iff.2 h)
  have hslash : StartsProperty ('/' :: back) ↔ StartsProperty [] ∨ StartsProperty back :=
    @startsProperty_append_slash_iff [] back
  rw [startsProperty_append_slash_iff, hslash, or_iff_right hnone]

/-- A comment ends like a property that is opened on its line, before the comment or in it. -/
def EndsInComment (front back : List Char) : Prop :=
  ∃ text space, back = text ++ '"' :: space ∧ (StartsProperty front ∨ StartsProperty text) ∧ Blank space

theorem unterminated_comment_iff : Unterminated (front ++ '/' :: '/' :: back) ↔ EndsInComment front back := by
  have hslash : isBlank '/' = false := by decide
  constructor
  · rintro ⟨body, space, heq, hstarts, hspace⟩
    -- the white space at the end follows on the comment mark
    have hsplit : (body ++ ['"']) ++ space = front ++ '/' :: '/' :: back := by simp [heq]
    obtain ⟨inner, hbody, hinner⟩ := (append_blank_eq_iff hspace hslash).1 hsplit
    obtain ⟨comment, rfl, rfl⟩ := (@append_blank_eq_iff inner space [] back '/' hspace hslash).1 hinner.symm
    rcases List.eq_nil_or_concat comment with rfl | ⟨text, c, rfl⟩
    · have hlast := congrArg List.getLast? hbody
      simp at hlast
    · rw [List.concat_eq_append, List.nil_append, ← List.cons_append, ← List.cons_append, ← List.append_assoc]
        at hbody
      obtain ⟨rfl, hc⟩ := List.append_inj' hbody rfl
      obtain rfl := (List.cons.inj hc).1
      exact ⟨text, space, by simp, startsProperty_append_comment_iff.1 hstarts, hspace⟩
  · rintro ⟨text, space, rfl, hstarts, hspace⟩
    exact ⟨front ++ '/' :: '/' :: text, space, by simp, startsProperty_append_comment_iff.2 hstarts, hspace⟩

theorem cutLine_subset (line : List Char) : cutLine line ⊆ line := by
  cases hcut : cutAt? ['/', '/'] line with
  | none =>
      rw [cutLine_of_uncut (cutAt?_eq_none_iff.1 hcut)]
      exact List.Subset.refl line
  | some parts =>
      obtain ⟨front, back⟩ := parts
      rw [cutLine_of_cut hcut, ((cutAt?_eq_some_iff (by decide)).1 hcut).1]
      exact List.subset_append_left front _

theorem splitOn_cutComments (cs : List Char) :
    (cutComments false cs).splitOn '\n' = (cs.splitOn '\n').map cutLine := by
  rw [cutComments_eq_overLines, overLines]
  refine List.splitOn_intercalate '\n' (fun piece hpiece => ?_) (by simp)
  obtain ⟨line, hline, rfl⟩ := List.mem_map.1 hpiece
  exact fun hmem => not_mem_of_mem_splitOn hline (cutLine_subset line hmem)

/-! ## Diagnostics -/

theorem mem_map_flaggedLines_iff {diagnostic : Diagnostic} :
    diagnostic ∈ (flaggedLines flagged 1 lines).map (fun line => ⟨line, missingSemicolon⟩) ↔
      ∃ k line, lines[k]? = some line ∧ flagged line = true ∧ diagnostic = ⟨k + 1, missingSemicolon⟩ := by
  rw [List.mem_map]
  constructor
  · rintro ⟨n, hn, rfl⟩
    obtain ⟨k, line, hk, hflagged, rfl⟩ := mem_flaggedLines_iff.1 hn
    exact ⟨k, line, hk, hflagged, by rw [Nat.add_comm]⟩
  · rintro ⟨k, line, hk, hflagged, rfl⟩
    exact ⟨k + 1, mem_flaggedLines_iff.2 ⟨k, line, hk, hflagged, Nat.add_comm k 1⟩, rfl⟩

theorem lintUncommented_eq (script : String) :
    lintUncommented script
      = (flaggedLines (fun line => unterminated (cutLine line)) 1 (script.toList.splitOn '\n')).map
          fun line => ⟨line, missingSemicolon⟩ := by
  rw [lintUncommented, lint, String.toList_ofList, splitOn_cutComments, flaggedLines_map]

/-- The linter reports exactly the lines that end in the closing quote of a property, but for white space, in
    their order and with their numbers. Comments count as text: were they cut off first, the lines that end so
    before their comments would be reported. The reports are the same exactly where every line with a comment
    ends so before the comment just if the comment does, for a property that is opened before it or in it. -/
theorem lint_exact (script : String) :
    (∀ diagnostic, diagnostic ∈ lint script ↔
        ∃ k line, (script.toList.splitOn '\n')[k]? = some line ∧ Unterminated line ∧
          diagnostic = ⟨k + 1, missingSemicolon⟩) ∧
      (∀ diagnostic, diagnostic ∈ lintUncommented script ↔
        ∃ k line, (script.toList.splitOn '\n')[k]? = some line ∧ Unterminated (cutLine line) ∧
          diagnostic = ⟨k + 1, missingSemicolon⟩) ∧
      (lint script).Pairwise (fun diagnostic later => diagnostic.line < later.line) ∧
      (lintUncommented script).Pairwise (fun diagnostic later => diagnostic.line < later.line) ∧
      (lint script = lintUncommented script ↔
        ∀ line ∈ script.toList.splitOn '\n', ∀ front back, cutAt? ['/', '/'] line = some (front, back) →
          (Unterminated front ↔ EndsInComment front back)) := by
  have hinjective : Function.Injective fun line : Nat => (⟨line, missingSemicolon⟩ : Diagnostic) :=
    fun _ _ heq => congrArg Diagnostic.line heq
  rw [lintUncommented_eq]
  refine ⟨fun diagnostic => ?_, fun diagnostic => ?_, List.pairwise_map.2 (pairwise_flaggedLines _ 1 _),
    List.pairwise_map.2 (pairwise_flaggedLines _ 1 _), ?_⟩
  · simp only [lint, mem_map_flaggedLines_iff, unterminated_iff]
  · simp only [mem_map_flaggedLines_iff, unterminated_iff]
  · rw [lint, hinjective.list_map.eq_iff, flaggedLines_eq_iff]
    refine forall_congr' fun line => forall_congr' fun _ => ?_
    rw [Bool.eq_iff_iff, unterminated_iff, unterminated_iff]
    constructor
    · intro h front back hcut
      rw [cutLine_of_cut hcut, ((cutAt?_eq_some_iff (by decide)).1 hcut).1] at h
      exact h.symm.trans unterminated_comment_iff
    · intro h
      cases hcut : cutAt? ['/', '/'] line with
      | none => rw [cutLine_of_uncut (cutAt?_eq_none_iff.1 hcut)]
      | some parts =>
          obtain ⟨front, back⟩ := parts
          rw [cutLine_of_cut hcut, h front back hcut, ((cutAt?_eq_some_iff (by decide)).1 hcut).1]
          exact unterminated_comment_iff

/-- A property in a comment is reported, and one before a comment is not. -/
theorem comments_linted :
    lint "// mood: \"calm\"" = [⟨1, missingSemicolon⟩] ∧ lintUncommented "// mood: \"calm\"" = [] ∧
      lint "mood: \"calm\" // soft" = [] ∧
      lintUncommented "mood: \"calm\" // soft" = [⟨1, missingSemicolon⟩] := by
  decide +kernel

end PromptCanvas.Script
