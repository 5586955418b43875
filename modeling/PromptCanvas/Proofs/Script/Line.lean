import PromptCanvas.Proofs.Script.Unquoted
import PromptCanvas.Script.Line

set_option autoImplicit false

/-! # Slashes within quotes

Comments are cut off line by line, each at the first two slashes of its line. So slashes within quotes are
kept exactly where, on every line, the first two slashes are not within quotes. -/

namespace PromptCanvas.Script

open Text

variable {line front back cs : List Char}

/-! ## One line -/

theorem cutLine_nil : cutLine [] = [] := rfl

theorem cutLine_comment : cutLine ('/' :: '/' :: back) = [] := rfl

theorem cutLine_cons {c : Char} (h : ¬ (c = '/' ∧ line.head? = some '/')) :
    cutLine (c :: line) = c :: cutLine line := by
  have hnone : after? ['/', '/'] (c :: line) = none := after?_eq_none_iff.2 (mt slashes_prefix_cons_iff.1 h)
  unfold cutLine
  rw [cutAt?, hnone]
  cases cutAt? ['/', '/'] line <;> rfl

theorem cutLine_of_cut (h : cutAt? ['/', '/'] line = some (front, back)) : cutLine line = front := by
  rw [cutLine, h]

theorem cutLine_of_uncut (h : ¬ ['/', '/'] <:+: line) : cutLine line = line := by
  rw [cutLine, cutAt?_eq_none_iff.2 h]

/-! ## Lines -/

theorem intercalate_cons_head {c separator : Char} (line : List Char) (lines : List (List Char)) :
    [separator].intercalate ((c :: line) :: lines) = c :: [separator].intercalate (line :: lines) := by
  cases lines <;> simp

/-- A comment that is cut off is the rest of its line: the first line is cut, and what starts within a comment
    goes on with the second line. -/
theorem cutComments_splitOn {piece : List Char} {pieces : List (List Char)}
    (h : cs.splitOn '\n' = piece :: pieces) :
    cutComments false cs = ['\n'].intercalate (cutLine piece :: pieces.map cutLine) ∧
      cutComments true cs = ['\n'].intercalate ([] :: pieces.map cutLine) := by
  induction cs generalizing piece pieces with
  | nil =>
      obtain ⟨rfl, rfl⟩ := List.cons.inj h
      exact ⟨rfl, rfl⟩
  | cons c cs ih =>
      obtain ⟨line, lines, hsplit⟩ := exists_splitOn_eq_cons '\n' cs
      obtain ⟨hfalse, htrue⟩ := ih hsplit
      by_cases hc : c = '\n'
      · subst hc
        rw [splitOn_cons_self, hsplit] at h
        obtain ⟨rfl, rfl⟩ := List.cons.inj h
        have hcomment : ¬ ('\n' = '/' ∧ cs.head? = some '/') := fun h => absurd h.1 (by decide)
        constructor
        · rw [cutComments, if_neg hcomment, hfalse]
          simp [cutLine_nil]
        · rw [cutComments, if_pos rfl, hfalse]
          simp
      · rw [splitOn_cons_of_ne hsplit hc] at h
        obtain ⟨rfl, rfl⟩ := List.cons.inj h
        have hhead : line.head? = some '/' ↔ cs.head? = some '/' := head?_splitOn hsplit (by decide)
        refine ⟨?_, by rw [cutComments, if_neg hc, htrue]⟩
        rw [cutComments]
        split
        · next hcomment =>
            obtain ⟨rfl, hslash⟩ := hcomment
            obtain ⟨rest, rfl⟩ := List.head?_eq_some_iff.1 (hhead.2 hslash)
            rw [htrue, cutLine_comment]
        · next hcomment =>
            rw [hfalse, cutLine_cons fun h => hcomment ⟨h.1, hhead.1 h.2⟩, intercalate_cons_head]

/-- Comments are cut off line by line. -/
theorem cutComments_eq_overLines (cs : List Char) : cutComments false cs = overLines cutLine cs := by
  obtain ⟨piece, pieces, hsplit⟩ := exists_splitOn_eq_cons '\n' cs
  rw [(cutComments_splitOn hsplit).1, overLines, hsplit, List.map_cons]

/-! ## Slashes that are kept -/

theorem count_slash_foldBreaks (folding : Bool) (cs : List Char) :
    (foldBreaks folding cs).count '/' = cs.count '/' := by
  induction cs generalizing folding with
  | nil => cases folding <;> rfl
  | cons c cs ih =>
      rw [foldBreaks]
      split
      · next hbreak =>
          have hc : c ≠ '/' := by
            rintro rfl
            exact absurd hbreak (by decide)
          rw [List.count_cons_of_ne hc]
          split
          · exact ih true
          · rw [List.count_cons_of_ne (by decide), ih]
      · rw [List.count_cons, List.count_cons, ih]

theorem count_slash_intercalate (line : List Char) (lines : List (List Char)) :
    (['\n'].intercalate (line :: lines)).count '/' = line.count '/' + (['\n'].intercalate lines).count '/' := by
  cases lines with
  | nil => simp
  | cons next lines =>
      rw [List.intercalate_cons_cons, List.count_append, List.count_append]
      simp

section

variable {change change' : List Char → List Char} {lines : List (List Char)}

theorem count_slash_lines_le (h : ∀ line, (change line).count '/' ≤ (change' line).count '/') :
    (['\n'].intercalate (lines.map change)).count '/'
      ≤ (['\n'].intercalate (lines.map change')).count '/' := by
  induction lines with
  | nil => exact Nat.le_refl _
  | cons line lines ih =>
      rw [List.map_cons, List.map_cons, count_slash_intercalate, count_slash_intercalate]
      exact Nat.add_le_add (h line) ih

/-- A change that leaves fewer slashes on one line, and on none more, leaves fewer slashes. -/
theorem count_slash_lines_lt (h : ∀ line, (change line).count '/' ≤ (change' line).count '/')
    (hmem : line ∈ lines) (hlt : (change line).count '/' < (change' line).count '/') :
    (['\n'].intercalate (lines.map change)).count '/'
      < (['\n'].intercalate (lines.map change')).count '/' := by
  induction lines with
  | nil => exact absurd hmem List.not_mem_nil
  | cons first lines ih =>
      rw [List.map_cons, List.map_cons, count_slash_intercalate, count_slash_intercalate]
      rcases List.mem_cons.1 hmem with rfl | hmem
      · exact Nat.add_lt_add_of_lt_of_le hlt (count_slash_lines_le h)
      · exact Nat.add_lt_add_of_le_of_lt (h first) (ih hmem)

end

theorem withinQuotes_slash (front back : List Char) :
    withinQuotes front ('/' :: back) = withinQuotes front back := by
  simp [withinQuotes]

theorem cutUnquoted_cons {c : Char} {rest : List Char} (h : ¬ (c = '/' ∧ rest.head? = some '/')) :
    cutUnquoted front (c :: rest) = c :: cutUnquoted (front ++ [c]) rest := by
  rw [cutUnquoted, if_neg fun hcut => h ⟨hcut.1, hcut.2.1⟩]

theorem cutUnquoted_append {before : List Char} (h : ¬ ['/', '/'] <:+: front ++ ['/']) (back : List Char) :
    cutUnquoted before (front ++ '/' :: back) = front ++ cutUnquoted (before ++ front) ('/' :: back) := by
  induction front generalizing before with
  | nil => simp
  | cons c front ih =>
      rw [List.cons_append, slashes_infix_cons_iff, not_or] at h
      obtain ⟨hstart, hfront⟩ := h
      have hhead : (front ++ '/' :: back).head? = (front ++ ['/']).head? := by cases front <;> rfl
      rw [← hhead] at hstart
      rw [List.cons_append, cutUnquoted_cons hstart, ih hfront, List.append_assoc]
      rfl

theorem cutUnquoted_of_uncut {before : List Char} (h : ¬ ['/', '/'] <:+: line) :
    cutUnquoted before line = line := by
  induction line generalizing before with
  | nil => rfl
  | cons c line ih =>
      obtain ⟨hstart, hline⟩ := not_or.1 (mt slashes_infix_cons_iff.2 h)
      rw [cutUnquoted_cons hstart, ih hline]

/-- A line is read up to its first two slashes at least. -/
theorem cutUnquoted_of_cut (h : cutAt? ['/', '/'] line = some (front, back)) :
    cutUnquoted [] line = front ++ cutUnquoted front ('/' :: '/' :: back) := by
  obtain ⟨rfl, hfirst⟩ := (cutAt?_eq_some_iff (by decide)).1 h
  exact cutUnquoted_append hfirst _

/-- A line whose first two slashes are not within quotes is cut there. -/
theorem cutUnquoted_eq_cutLine
    (h : ∀ front back, cutAt? ['/', '/'] line = some (front, back) → withinQuotes front back = false) :
    cutUnquoted [] line = cutLine line := by
  cases hcut : cutAt? ['/', '/'] line with
  | none =>
      have hinfix := cutAt?_eq_none_iff.1 hcut
      rw [cutUnquoted_of_uncut hinfix, cutLine_of_uncut hinfix]
  | some parts =>
      obtain ⟨front, back⟩ := parts
      have hplain := h front back hcut
      have hstart : cutUnquoted front ('/' :: '/' :: back) = [] := by
        rw [cutUnquoted, if_pos ⟨rfl, rfl, (withinQuotes_slash front back).trans hplain⟩]
      rw [cutLine_of_cut hcut, cutUnquoted_of_cut hcut, hstart, List.append_nil]

/-- Slashes within quotes are lost with the comment that they are taken for. -/
theorem count_slash_lt (hcut : cutAt? ['/', '/'] line = some (front, back))
    (hquoted : withinQuotes front back = true) :
    (cutLine line).count '/' < (cutUnquoted [] line).count '/' := by
  have hkept : cutUnquoted front ('/' :: '/' :: back) = '/' :: cutUnquoted (front ++ ['/']) ('/' :: back) := by
    have hwithin : withinQuotes front ('/' :: back) = true := (withinQuotes_slash front back).trans hquoted
    rw [cutUnquoted, if_neg fun hcut => Bool.noConfusion (hwithin.symm.trans hcut.2.2)]
  rw [cutLine_of_cut hcut, cutUnquoted_of_cut hcut, hkept, List.count_append, List.count_cons_self]
  omega

theorem count_slash_le (line : List Char) : (cutLine line).count '/' ≤ (cutUnquoted [] line).count '/' := by
  by_cases h : ∃ front back, cutAt? ['/', '/'] line = some (front, back) ∧ withinQuotes front back = true
  · obtain ⟨front, back, hcut, hquoted⟩ := h
    exact (count_slash_lt hcut hquoted).le
  · refine (congrArg (List.count '/') (cutUnquoted_eq_cutLine fun front back hcut => ?_)).ge
    exact Bool.eq_false_iff.2 fun hquoted => h ⟨front, back, hcut, hquoted⟩

/-! ## Slashes that are lost -/

/-- A text that starts with a slash without its comments does so with them. -/
theorem head?_of_head?_cutComments {cs : List Char} (h : (cutComments false cs).head? = some '/') :
    cs.head? = some '/' := by
  cases cs with
  | nil => simp [cutComments] at h
  | cons c cs =>
      rw [cutComments] at h
      split at h
      · next hcomment => exact congrArg some hcomment.1
      · exact h

theorem not_infix_cutComments (inside : Bool) (cs : List Char) : ¬ ['/', '/'] <:+: cutComments inside cs := by
  induction cs generalizing inside with
  | nil => cases inside <;> simp [cutComments]
  | cons c cs ih =>
      cases inside with
      | true =>
          rw [cutComments]
          split
          · next hc =>
              rw [slashes_infix_cons_iff, not_or, hc]
              exact ⟨fun h => absurd h.1 (by decide), ih false⟩
          · exact ih true
      | false =>
          rw [cutComments]
          split
          · exact ih true
          · next hcomment =>
              rw [slashes_infix_cons_iff, not_or]
              exact ⟨fun h => hcomment ⟨h.1, head?_of_head?_cutComments h.2⟩, ih false⟩

/-- A line break leaves a space between two slashes. -/
theorem head?_of_head?_foldBreaks {cs : List Char} (h : (foldBreaks false cs).head? = some '/') :
    cs.head? = some '/' := by
  cases cs with
  | nil => simp [foldBreaks] at h
  | cons c cs =>
      rw [foldBreaks] at h
      split at h
      · simp at h
      · exact h

theorem not_infix_foldBreaks (folding : Bool) (h : ¬ ['/', '/'] <:+: cs) :
    ¬ ['/', '/'] <:+: foldBreaks folding cs := by
  induction cs generalizing folding with
  | nil => cases folding <;> simp [foldBreaks]
  | cons c cs ih =>
      obtain ⟨hstart, hcs⟩ := not_or.1 (mt slashes_infix_cons_iff.2 h)
      rw [foldBreaks]
      split
      · split
        · exact ih true hcs
        · rw [slashes_infix_cons_iff, not_or]
          exact ⟨fun h => absurd h.1 (by decide), ih true hcs⟩
      · rw [slashes_infix_cons_iff, not_or]
        exact ⟨fun h => hstart ⟨h.1, head?_of_head?_foldBreaks h.2⟩, ih false hcs⟩

theorem not_infix_flatten (cs : List Char) : ¬ ['/', '/'] <:+: flatten cs :=
  not_infix_foldBreaks false (not_infix_cutComments false cs)

/-! ## Scripts -/

/-- The first two slashes of a line start a comment wherever they stand, and no name or value that is read
    holds two slashes. So slashes within quotes are kept exactly where no line has its first two slashes
    within quotes. -/
theorem stripComments_eq (script : String) :
    stripComments script = String.ofList (foldBreaks false (overLines cutLine script.toList)) ∧
      (Outline.ofScript script).Tells (fun s => ¬ ['/', '/'] <:+: s.toList) ∧
      (stripComments script = stripUnquoted script ↔
        ∀ line ∈ script.toList.splitOn '\n', ∀ front back, cutAt? ['/', '/'] line = some (front, back) →
          withinQuotes front back = false) := by
  have hstrip : stripComments script = String.ofList (foldBreaks false (overLines cutLine script.toList)) := by
    rw [stripComments, flatten, cutComments_eq_overLines]
  refine ⟨hstrip, (Outline.tells_ofScript script).imp fun s hquoted hslashes => ?_, fun h => ?_, fun h => ?_⟩
  · exact not_infix_flatten script.toList (hslashes.trans hquoted.2)
  · intro line hline front back hcut
    by_contra hquoted
    -- the slashes of the line would be missing
    have hlt : (overLines cutLine script.toList).count '/'
        < (overLines (cutUnquoted []) script.toList).count '/' :=
      count_slash_lines_lt count_slash_le hline (count_slash_lt hcut (by simpa using hquoted))
    rw [hstrip, stripUnquoted] at h
    rw [← count_slash_foldBreaks false, String.ofList_injective h, count_slash_foldBreaks] at hlt
    exact absurd hlt (Nat.lt_irrefl _)
  · have hlines : overLines cutLine script.toList = overLines (cutUnquoted []) script.toList := by
      unfold overLines
      rw [List.map_congr_left fun line hline => (cutUnquoted_eq_cutLine (h line hline)).symm]
    rw [hstrip, hlines, stripUnquoted]

/-- A comment starts within quotes: the closing quote is lost with it, and the block with the property. -/
theorem quoted_slashes_cut :
    stripComments "label: \"a//b\";" = "label: \"a" ∧
      stripUnquoted "label: \"a//b\";" = "label: \"a//b\";" ∧
      Outline.ofScript "create bird \"crow\" \x7b label: \"a//b\"; \x7d" = {} := by
  decide +kernel

end PromptCanvas.Script
