import PromptCanvas.Proofs.Script.Line

set_option autoImplicit false

/-! # The ends of lines

A comment ends with a line feed, while a carriage return breaks a line just as a line feed does. So a script
whose lines end with both is flattened like one whose lines end with a line feed. If its lines end with a
carriage return alone, its first comment takes up the rest of the script: it says what it says before its first
two slashes, which is the same only where nothing but white space and comments follows. -/

namespace PromptCanvas.Script

open Text

variable {cs front back : List Char}

/-! ## Line feeds behind carriage returns -/

/-- A line end that starts with a carriage return goes on with no comment. -/
theorem head?_replaceAll_slash (fill cs : List Char) :
    (replaceAll ['\n'] ('\r' :: fill) cs).head? = some '/' ↔ cs.head? = some '/' := by
  cases cs with
  | nil => rfl
  | cons c cs =>
      by_cases hc : c = '\n'
      · simp [hc, replaceAll_cons_self]
      · simp [replaceAll_cons_of_ne hc]

theorem cutComments_cons {c : Char} (hc : c ≠ '/') (cs : List Char) :
    cutComments false (c :: cs) = c :: cutComments false cs := by
  rw [cutComments, if_neg fun h => hc h.1]

theorem foldBreaks_return (folding : Bool) (cs : List Char) :
    foldBreaks folding ('\r' :: '\n' :: cs) = foldBreaks folding ('\n' :: cs) := by
  cases folding <;> rfl

theorem foldBreaks_feed (folding : Bool) {cs cs' : List Char} (h : foldBreaks true cs = foldBreaks true cs') :
    foldBreaks folding ('\n' :: cs) = foldBreaks folding ('\n' :: cs') := by
  cases folding with
  | false => exact congrArg (' ' :: ·) h
  | true => exact h

theorem foldBreaks_cutComments_returns (inside folding : Bool) (cs : List Char) :
    foldBreaks folding (cutComments inside (replaceAll ['\n'] ['\r', '\n'] cs))
      = foldBreaks folding (cutComments inside cs) := by
  induction cs generalizing inside folding with
  | nil => rfl
  | cons c cs ih =>
      by_cases hc : c = '\n'
      · subst hc
        rw [replaceAll_cons_self]
        cases inside with
        | true =>
            -- the comment takes up the carriage return
            show foldBreaks folding ('\n' :: cutComments false _) = foldBreaks folding ('\n' :: cutComments false _)
            exact foldBreaks_feed folding (ih false true)
        | false =>
            rw [List.cons_append, List.cons_append, List.nil_append, cutComments_cons (by decide),
              cutComments_cons (by decide), cutComments_cons (by decide), foldBreaks_return]
            exact foldBreaks_feed folding (ih false true)
      · rw [replaceAll_cons_of_ne hc]
        cases inside with
        | true =>
            rw [cutComments, if_neg hc, cutComments, if_neg hc]
            exact ih true folding
        | false =>
            simp only [cutComments, head?_replaceAll_slash]
            split
            · exact ih true folding
            · simp only [foldBreaks, ih]

/-! ## Carriage returns alone -/

theorem cutComments_inside_returns (cs : List Char) :
    cutComments true (replaceAll ['\n'] ['\r'] cs) = [] := by
  induction cs with
  | nil => rfl
  | cons c cs ih =>
      by_cases hc : c = '\n'
      · subst hc
        rw [replaceAll_cons_self]
        exact ih
      · rw [replaceAll_cons_of_ne hc, cutComments, if_neg hc]
        exact ih

/-- The first comment takes up the rest of the script. -/
theorem cutComments_returns (cs : List Char) :
    cutComments false (replaceAll ['\n'] ['\r'] cs) = replaceAll ['\n'] ['\r'] (cutLine cs) := by
  induction cs with
  | nil => rfl
  | cons c cs ih =>
      by_cases hc : c = '\n'
      · subst hc
        rw [cutLine_cons fun h => absurd h.1 (by decide), replaceAll_cons_self, replaceAll_cons_self,
          List.cons_append, List.nil_append, cutComments_cons (by decide), ih]
        rfl
      · by_cases hcomment : c = '/' ∧ cs.head? = some '/'
        · obtain ⟨rfl, hhead⟩ := hcomment
          rw [replaceAll_cons_of_ne hc, cutComments, if_pos ⟨rfl, (head?_replaceAll_slash [] cs).2 hhead⟩,
            cutComments_inside_returns]
          obtain ⟨rest, rfl⟩ := List.head?_eq_some_iff.1 hhead
          rw [cutLine_comment]
          rfl
        · have hcomment' : ¬ (c = '/' ∧ (replaceAll ['\n'] ['\r'] cs).head? = some '/') :=
            fun h => hcomment ⟨h.1, (head?_replaceAll_slash [] cs).1 h.2⟩
          rw [replaceAll_cons_of_ne hc, cutComments, if_neg hcomment', cutLine_cons hcomment,
            replaceAll_cons_of_ne hc, ih]

theorem foldBreaks_returns (folding : Bool) (cs : List Char) :
    foldBreaks folding (replaceAll ['\n'] ['\r'] cs) = foldBreaks folding cs := by
  induction cs generalizing folding with
  | nil => rfl
  | cons c cs ih =>
      by_cases hc : c = '\n'
      · subst hc
        rw [replaceAll_cons_self]
        cases folding with
        | false => exact congrArg (' ' :: ·) (ih true)
        | true => exact ih true
      · rw [replaceAll_cons_of_ne hc]
        simp only [foldBreaks, ih]

/-! ## What stands before a comment -/

theorem cutComments_of_uncut (h : ¬ ['/', '/'] <:+: cs) : cutComments false cs = cs := by
  induction cs with
  | nil => rfl
  | cons c cs ih =>
      obtain ⟨hstart, hcs⟩ := not_or.1 (mt slashes_infix_cons_iff.2 h)
      rw [cutComments, if_neg hstart, ih hcs]

theorem not_infix_cutLine (cs : List Char) : ¬ ['/', '/'] <:+: cutLine cs := by
  cases hcut : cutAt? ['/', '/'] cs with
  | none =>
      have hinfix := cutAt?_eq_none_iff.1 hcut
      rwa [cutLine_of_uncut hinfix]
  | some parts =>
      rw [cutLine_of_cut hcut]
      exact not_infix_of_cutAt? (by decide) hcut

/-- What stands before a comment stays, and the comment runs on behind it. -/
theorem cutComments_append (h : ¬ ['/', '/'] <:+: front ++ ['/']) (back : List Char) :
    cutComments false (front ++ '/' :: '/' :: back) = front ++ cutComments true back := by
  induction front with
  | nil => simp [cutComments]
  | cons c front ih =>
      rw [List.cons_append, slashes_infix_cons_iff, not_or] at h
      obtain ⟨hstart, hfront⟩ := h
      have hhead : (front ++ '/' :: '/' :: back).head? = (front ++ ['/']).head? := by cases front <;> rfl
      rw [← hhead] at hstart
      rw [List.cons_append, cutComments, if_neg hstart, ih hfront, List.cons_append]

/-- White space at the end of a flattened script says nothing. -/
theorem ofFlat_append_blank (h : Blank back) (cs : List Char) :
    Outline.ofFlat (cs ++ back) = Outline.ofFlat cs := by
  unfold Outline.ofFlat scanAll
  rw [blind_subject.scan_append_blank h, blind_setting.scan_append_blank h]

/-- A script of whose lines only white space is left behind the first comment says what it says before it. -/
theorem ofFlat_of_cut (hcut : cutAt? ['/', '/'] cs = some (front, back)) (hback : Blank (cutComments true back)) :
    Outline.ofFlat (flatten cs) = Outline.ofFlat (flatten front) := by
  obtain ⟨rfl, hfirst⟩ := (cutAt?_eq_some_iff (by decide)).1 hcut
  have hcomment : cutComments false (front ++ (['/', '/'] ++ back)) = front ++ cutComments true back :=
    cutComments_append hfirst back
  obtain ⟨margin, hmargin, hfold⟩ := foldBreaks_append_blank hback false front
  rw [flatten, hcomment, hfold, ofFlat_append_blank hmargin, flatten,
    cutComments_of_uncut (not_infix_of_cutAt? (by decide) hcut)]

/-! ## Scripts -/

theorem flatten_returns (cs : List Char) :
    flatten (replaceAll ['\n'] ['\r'] cs) = flatten (cutLine cs) := by
  rw [flatten, cutComments_returns, foldBreaks_returns, flatten, cutComments_of_uncut (not_infix_cutLine cs)]

/-- Lines that end with a carriage return and a line feed say what lines that end with a line feed say. If they
    end with a carriage return alone, the script says what stands before its first two slashes; that is the same
    if nothing but white space and comments follows. -/
theorem ofScript_withLineEnds (script : String) :
    Outline.ofScript (withLineEnds "\r\n" script) = Outline.ofScript script ∧
      Outline.ofScript (withLineEnds "\r" script)
        = Outline.ofScript (String.ofList (cutLine script.toList)) ∧
      ((∀ front back, cutAt? ['/', '/'] script.toList = some (front, back) → Blank (cutComments true back)) →
        Outline.ofScript (withLineEnds "\r" script) = Outline.ofScript script) := by
  have hreturns : Outline.ofScript (withLineEnds "\r" script)
      = Outline.ofScript (String.ofList (cutLine script.toList)) := by
    unfold Outline.ofScript withLineEnds
    rw [String.toList_ofList, String.toList_ofList]
    show Outline.ofFlat (flatten (replaceAll ['\n'] ['\r'] script.toList)) = _
    rw [flatten_returns, String.toList_ofList]
  refine ⟨?_, hreturns, fun hback => ?_⟩
  · unfold Outline.ofScript withLineEnds flatten
    rw [String.toList_ofList]
    show Outline.ofFlat (foldBreaks false (cutComments false (replaceAll ['\n'] ['\r', '\n'] script.toList))) = _
    rw [foldBreaks_cutComments_returns]
  · rw [hreturns]
    unfold Outline.ofScript
    rw [String.toList_ofList]
    cases hcut : cutAt? ['/', '/'] script.toList with
    | none => rw [cutLine_of_uncut (cutAt?_eq_none_iff.1 hcut)]
    | some parts => rw [cutLine_of_cut hcut, ofFlat_of_cut hcut (hback parts.1 parts.2 hcut)]

/-- The comments of this script follow its only block. -/
theorem ofScript_withLineEnds_closing :
    let script := "create bird \"crow\" \x7b\n  eye: \"black\";\n\x7d // a bird\n\n // and no more\n"
    (∀ front back, cutAt? ['/', '/'] script.toList = some (front, back) → Blank (cutComments true back)) ∧
      Outline.ofScript (withLineEnds "\r" script) = Outline.ofScript script ∧
      (Outline.ofScript script).subject = some ⟨"bird", "crow", [⟨"eye", "black"⟩]⟩ := by
  intro script
  have hback : ∀ front back, cutAt? ['/', '/'] script.toList = some (front, back) →
      Blank (cutComments true back) := by
    intro front back hcut
    have hparts : cutAt? ['/', '/'] script.toList
        = some ("create bird \"crow\" \x7b\n  eye: \"black\";\n\x7d ".toList,
          " a bird\n\n // and no more\n".toList) := by
      decide +kernel
    obtain ⟨_, rfl⟩ := Prod.mk.inj (Option.some.inj (hcut.symm.trans hparts))
    exact List.all_eq_true.1 (by decide +kernel)
  exact ⟨hback, (ofScript_withLineEnds script).2.2 hback, by decide +kernel⟩

/-- A comment before a block: with carriage returns alone it takes up the block. -/
theorem return_ends_no_comment :
    let script := "// a bird\ncreate bird \"crow\" \x7b eye: \"black\"; \x7d"
    (Outline.ofScript script).subject = some ⟨"bird", "crow", [⟨"eye", "black"⟩]⟩ ∧
      Outline.ofScript (withLineEnds "\r\n" script) = Outline.ofScript script ∧
      Outline.ofScript (withLineEnds "\r" script) = {} := by
  decide +kernel

end PromptCanvas.Script
