import PromptCanvas.Proofs.Script.Lint

set_option autoImplicit false

/-! # Missing semicolons, script by script and line by line

The linter looks at each line by itself. So what it reports about two scripts, one put below the other, is what
it reports about each of them, with the numbers of the lower one moved on; with what it reports about one line
this says all that it reports. And a semicolon at the end of a line settles that line and touches no other: a
line that ends in one is never reported. -/

namespace PromptCanvas.Script

open Text

/-- The number of lines of a script. -/
def lineCount (script : String) : Nat := script.toList.count '\n' + 1

/-- A diagnostic of a line that has other lines put above it. -/
def Diagnostic.below (above : Nat) (diagnostic : Diagnostic) : Diagnostic :=
  { diagnostic with line := diagnostic.line + above }

/-- The script with a semicolon at the end of each line that is reported. -/
def terminated (script : String) : String :=
  String.ofList (['\n'].intercalate ((script.toList.splitOn '\n').mapIdx fun k line =>
    if k + 1 ∈ (lint script).map Diagnostic.line then line ++ [';'] else line))

variable {line : List Char} {flagged : List Char → Bool}

/-! ## Scripts below each other -/

theorem flaggedLines_append (first : Nat) (lines lines' : List (List Char)) :
    flaggedLines flagged first (lines ++ lines')
      = flaggedLines flagged first lines ++ flaggedLines flagged (first + lines.length) lines' := by
  induction lines generalizing first with
  | nil => rfl
  | cons line lines ih =>
      have hfirst : first + (line :: lines).length = first + 1 + lines.length := by
        rw [List.length_cons]
        omega
      rw [List.cons_append, flaggedLines, flaggedLines, hfirst, ih]
      split
      · rw [List.cons_append]
      · rfl

theorem flaggedLines_add (first above : Nat) (lines : List (List Char)) :
    flaggedLines flagged (first + above) lines = (flaggedLines flagged first lines).map (· + above) := by
  induction lines generalizing first with
  | nil => rfl
  | cons line lines ih =>
      rw [flaggedLines, flaggedLines, Nat.add_right_comm, ih]
      split
      · rw [List.map_cons]
      · rfl

theorem lint_append (a b : String) :
    lint (a ++ "\n" ++ b) = lint a ++ (lint b).map (Diagnostic.below (lineCount a)) := by
  have hlines : (a ++ "\n" ++ b).toList.splitOn '\n' = a.toList.splitOn '\n' ++ b.toList.splitOn '\n' := by
    rw [String.toList_append, String.toList_append, List.append_assoc]
    exact List.splitOn_append_cons_self _ _
  rw [lint, hlines, flaggedLines_append, flaggedLines_add, List.map_append, length_splitOn]
  simp only [lint, lineCount, List.map_map]
  rfl

theorem lint_eq_of_line {script : String} (h : '\n' ∉ script.toList) :
    lint script = if unterminated script.toList then [⟨1, missingSemicolon⟩] else [] := by
  rw [lint, List.splitOn_eq_singleton h, flaggedLines, flaggedLines]
  split <;> rfl

theorem pairwise_lint (script : String) :
    (lint script).Pairwise fun diagnostic later => diagnostic.line < later.line :=
  List.pairwise_map.2 (pairwise_flaggedLines unterminated 1 _)

/-! ## Semicolons at the end of a line -/

/-- A line that ends in a semicolon ends neither in a quote nor in white space. -/
theorem unterminated_append_semicolon (line : List Char) : unterminated (line ++ [';']) = false := by
  rw [Bool.eq_false_iff, ne_eq, unterminated_iff]
  rintro ⟨body, space, heq, _, hspace⟩
  have hlast : (body ++ '"' :: space).getLast? = some ';' := by rw [← heq, List.getLast?_concat]
  rw [List.getLast?_append, List.getLast?_cons, Option.some_or, Option.some.injEq] at hlast
  cases hend : space.getLast? with
  | none =>
      rw [hend] at hlast
      exact absurd hlast (by decide)
  | some c =>
      rw [hend, Option.getD_some] at hlast
      exact absurd (hspace c (List.mem_of_getLast? hend)) (by rw [hlast]; decide)

/-- A line with the semicolon that it lacks. -/
def withSemicolon (line : List Char) : List Char := if unterminated line then line ++ [';'] else line

theorem unterminated_withSemicolon (line : List Char) : unterminated (withSemicolon line) = false := by
  unfold withSemicolon
  split
  · exact unterminated_append_semicolon line
  · next h => exact Bool.eq_false_iff.2 h

theorem not_mem_withSemicolon (h : '\n' ∉ line) : '\n' ∉ withSemicolon line := by
  unfold withSemicolon
  split
  · simpa using h
  · exact h

theorem flaggedLines_eq_nil (first : Nat) {lines : List (List Char)}
    (h : ∀ line ∈ lines, flagged line = false) : flaggedLines flagged first lines = [] := by
  rw [List.eq_nil_iff_forall_not_mem]
  intro n hn
  obtain ⟨k, line, hk, hflagged, _⟩ := mem_flaggedLines_iff.1 hn
  rw [h line (List.mem_of_getElem? hk)] at hflagged
  cases hflagged

/-! ## The script that nothing is missing in -/

theorem mem_lint_lines_iff {script : String} {k : Nat} (hk : (script.toList.splitOn '\n')[k]? = some line) :
    k + 1 ∈ (lint script).map Diagnostic.line ↔ unterminated line = true := by
  have hnumbers : (lint script).map Diagnostic.line
      = flaggedLines unterminated 1 (script.toList.splitOn '\n') := by
    rw [lint, List.map_map]
    exact List.map_id _
  rw [hnumbers, Nat.add_comm, add_mem_flaggedLines_iff hk]

/-- The lines of a script and what becomes of them: those that are reported are the ones that lack a
    semicolon. -/
theorem splitOn_terminated (script : String) :
    (terminated script).toList.splitOn '\n' = (script.toList.splitOn '\n').map withSemicolon := by
  have hlines : ((script.toList.splitOn '\n').mapIdx fun k line =>
      if k + 1 ∈ (lint script).map Diagnostic.line then line ++ [';'] else line)
        = (script.toList.splitOn '\n').map withSemicolon := by
    refine List.ext_getElem? fun k => ?_
    rw [List.getElem?_mapIdx, List.getElem?_map]
    cases hk : (script.toList.splitOn '\n')[k]? with
    | none => rfl
    | some line => simp only [Option.map_some, withSemicolon, mem_lint_lines_iff hk]
  rw [terminated, String.toList_ofList, hlines]
  refine List.splitOn_intercalate '\n' (fun piece hpiece => ?_) (by simp)
  obtain ⟨line, hline, rfl⟩ := List.mem_map.1 hpiece
  exact not_mem_withSemicolon (not_mem_of_mem_splitOn hline)

theorem lint_terminated (script : String) : lint (terminated script) = [] := by
  rw [lint, splitOn_terminated, flaggedLines_eq_nil 1, List.map_nil]
  intro piece hpiece
  obtain ⟨line, _, rfl⟩ := List.mem_map.1 hpiece
  exact unterminated_withSemicolon line

/-- A line by itself is reported if it is unterminated, and what is reported about a script below another one
    is what is reported about each, so that reports come in the order of the lines. A semicolon at the end of
    exactly the lines that are reported leaves nothing to report, and leaves the other lines as they are. -/
theorem lint_local_and_terminated (a b script : String) :
    ('\n' ∉ script.toList →
      (lint script = [⟨1, missingSemicolon⟩] ↔ Unterminated script.toList) ∧
        (lint script = [] ↔ ¬ Unterminated script.toList)) ∧
    lint (a ++ "\n" ++ b) = lint a ++ (lint b).map (Diagnostic.below (lineCount a)) ∧
    (lint script).Pairwise (fun diagnostic later => diagnostic.line < later.line) ∧
    ((terminated script).toList.splitOn '\n').length = (script.toList.splitOn '\n').length ∧
    (∀ k line, (script.toList.splitOn '\n')[k]? = some line →
      ((terminated script).toList.splitOn '\n')[k]?
        = some (if ∃ diagnostic ∈ lint script, diagnostic.line = k + 1 then line ++ [';'] else line)) ∧
    lint (terminated script) = [] := by
  refine ⟨fun hline => ?_, lint_append a b, pairwise_lint script, ?_, fun k line hk => ?_,
    lint_terminated script⟩
  · rw [lint_eq_of_line hline, ← unterminated_iff]
    cases unterminated script.toList <;> simp
  · rw [splitOn_terminated, List.length_map]
  · have hreported : (∃ diagnostic ∈ lint script, diagnostic.line = k + 1) ↔ unterminated line = true := by
      rw [← mem_lint_lines_iff hk, List.mem_map]
    rw [splitOn_terminated, List.getElem?_map, hk, Option.map_some, withSemicolon]
    simp only [hreported]

end PromptCanvas.Script
