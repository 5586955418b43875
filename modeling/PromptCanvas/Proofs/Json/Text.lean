import Mathlib.Data.List.Basic
import PromptCanvas.Json.Grammar

set_option autoImplicit false

/-! # Reading texts of documents

The reader of texts takes exactly what the grammar writes between quotes (`readText_eq_ok_iff`). An escape of the
first half of a pair is the one place where it looks further ahead: the grammar has the half stand by itself only
where no second half follows, and what follows cannot reach past the closing quote. -/

namespace PromptCanvas.Json

open Text

variable {doc rest digits : List Symbol} {unit : Nat}

/-! ## Units -/

theorem readUnit?_eq_some_iff :
    readUnit? doc = some (unit, rest) ↔ ∃ digits, WritesUnit unit digits ∧ doc = digits ++ rest := by
  constructor
  · intro h
    unfold readUnit? at h
    split at h
    · next a b c d tail =>
        simp only [Option.bind_eq_bind, Option.bind_eq_some_iff, Option.some.injEq, Prod.mk.injEq] at h
        obtain ⟨p, ha, q, hb, r, hc, s, hd, rfl, rfl⟩ := h
        exact ⟨_, .digits ha hb hc hd, rfl⟩
    · simp at h
  · rintro ⟨digits, hunit, rfl⟩
    cases hunit with
    | digits ha hb hc hd => simp [readUnit?, ha, hb, hc, hd]

theorem readSecond?_eq_some_iff :
    readSecond? doc = some (unit, rest) ↔
      ∃ digits, WritesUnit unit digits ∧ isSecondHalf unit = true ∧ doc = escape digits ++ rest := by
  constructor
  · intro h
    unfold readSecond? at h
    split at h
    · next more =>
        rw [Option.filter_eq_some_iff, readUnit?_eq_some_iff] at h
        obtain ⟨⟨digits, hunit, rfl⟩, hsecond⟩ := h
        exact ⟨digits, hunit, hsecond, rfl⟩
    · simp at h
  · rintro ⟨digits, hunit, hsecond, rfl⟩
    show Option.filter _ (readUnit? (digits ++ rest)) = _
    rw [readUnit?_eq_some_iff.2 ⟨digits, hunit, rfl⟩, Option.filter_some, if_pos hsecond]

theorem readSecond?_escape (hunit : WritesUnit unit digits) (hsecond : isSecondHalf unit = true)
    (rest : List Symbol) : readSecond? (escape digits ++ rest) = some (unit, rest) :=
  readSecond?_eq_some_iff.2 ⟨digits, hunit, hsecond, rfl⟩

theorem quote_not_mem_escape (h : WritesUnit unit digits) : Symbol.char '"' ∉ escape digits := by
  have hquote : hexValue? '"' = none := by decide
  cases h with
  | digits ha hb hc hd =>
      simp only [escape, List.mem_cons, Symbol.char.injEq, List.not_mem_nil, or_false, not_or]
      refine ⟨by decide, by decide, ?_, ?_, ?_, ?_⟩
      · rintro rfl
        exact absurd (hquote.symm.trans ha) (by simp)
      · rintro rfl
        exact absurd (hquote.symm.trans hb) (by simp)
      · rintro rfl
        exact absurd (hquote.symm.trans hc) (by simp)
      · rintro rfl
        exact absurd (hquote.symm.trans hd) (by simp)

/-- What stands before a quote and goes on with symbols other than quotes holds all of these. -/
theorem exists_append_of_not_mem {before part more : List Symbol}
    (h : before ++ .char '"' :: rest = part ++ more) (hquote : Symbol.char '"' ∉ part) :
    ∃ tail, before = part ++ tail := by
  rcases List.append_eq_append_iff.1 h with ⟨tail, hpart, hrest⟩ | ⟨tail, hbefore, _⟩
  · cases tail with
    | nil => exact ⟨[], by rw [hpart, List.append_nil, List.append_nil]⟩
    | cons symbol tail =>
        obtain ⟨rfl, _⟩ := List.cons.inj hrest
        exact absurd (hpart ▸ by simp) hquote
  · exact ⟨tail, hbefore⟩

/-! ## Escapes -/

/-- What an escaped unit is read as: a character or half by itself, a pair, or a first half that no second half
    follows. -/
theorem readEscaped?_eq_some_iff {symbol : Symbol} :
    readEscaped? doc = some (symbol, rest) ↔
      (∃ unit digits, WritesUnit unit digits ∧ isFirstHalf unit = false ∧ symbol = .ofPoint unit ∧
        doc = digits ++ rest) ∨
      (∃ first second digits digits', WritesUnit first digits ∧ isFirstHalf first = true ∧
        WritesUnit second digits' ∧ isSecondHalf second = true ∧ symbol = .ofPair first second ∧
        doc = digits ++ (escape digits' ++ rest)) ∨
      (∃ first digits, WritesUnit first digits ∧ isFirstHalf first = true ∧ readSecond? rest = none ∧
        symbol = .half first ∧ doc = digits ++ rest) := by
  unfold readEscaped?
  simp only [Option.bind_eq_bind, Option.bind_eq_some_iff]
  constructor
  · rintro ⟨⟨unit, more⟩, hunit, h⟩
    obtain ⟨digits, hdigits, rfl⟩ := readUnit?_eq_some_iff.1 hunit
    by_cases hfirst : isFirstHalf unit = true
    · rw [if_pos hfirst] at h
      cases hsecond : readSecond? more with
      | some part =>
          obtain ⟨second, after⟩ := part
          simp only [hsecond, Option.some.injEq, Prod.mk.injEq] at h
          obtain ⟨rfl, rfl⟩ := h
          obtain ⟨digits', hdigits', hhalf, rfl⟩ := readSecond?_eq_some_iff.1 hsecond
          exact Or.inr (Or.inl ⟨unit, second, digits, digits', hdigits, hfirst, hdigits', hhalf, rfl, rfl⟩)
      | none =>
          simp only [hsecond, Option.some.injEq, Prod.mk.injEq] at h
          obtain ⟨rfl, rfl⟩ := h
          exact Or.inr (Or.inr ⟨unit, digits, hdigits, hfirst, hsecond, rfl, rfl⟩)
    · rw [if_neg hfirst, Option.some.injEq, Prod.mk.injEq] at h
      obtain ⟨rfl, rfl⟩ := h
      exact Or.inl ⟨unit, digits, hdigits, Bool.not_eq_true _ ▸ hfirst, rfl, rfl⟩
  · rintro (⟨unit, digits, hunit, hfirst, rfl, rfl⟩ |
      ⟨first, second, digits, digits', hunit, hfirst, hunit', hsecond, rfl, rfl⟩ |
      ⟨first, digits, hunit, hfirst, hnone, rfl, rfl⟩)
    · exact ⟨_, readUnit?_eq_some_iff.2 ⟨digits, hunit, rfl⟩, by simp [hfirst]⟩
    · have hpair := readSecond?_escape hunit' hsecond rest
      exact ⟨_, readUnit?_eq_some_iff.2 ⟨digits, hunit, rfl⟩, by simp [hfirst, hpair]⟩
    · exact ⟨_, readUnit?_eq_some_iff.2 ⟨digits, hunit, rfl⟩, by simp [hfirst, hnone]⟩

/-! ## Symbols of a text -/

theorem exists_writesText_of_readSymbols {fuel : Nat} {text : List Symbol}
    (h : readSymbols fuel doc = some (text, rest)) :
    ∃ written, WritesText text written ∧ doc = written ++ .char '"' :: rest := by
  induction fuel generalizing doc text with
  | zero => simp [readSymbols] at h
  | succ fuel ih =>
      unfold readSymbols at h
      split at h
      · simp at h
      · simp only [Option.some.injEq, Prod.mk.injEq] at h
        obtain ⟨rfl, rfl⟩ := h
        exact ⟨[], .nil, rfl⟩
      · next tail =>
          simp only [Option.bind_eq_bind, Option.bind_eq_some_iff] at h
          obtain ⟨⟨symbol, after⟩, hescaped, ⟨more, after'⟩, hmore, h⟩ := h
          simp only [Option.some.injEq, Prod.mk.injEq] at h
          obtain ⟨rfl, rfl⟩ := h
          obtain ⟨written, hwritten, rfl⟩ := ih hmore
          rcases readEscaped?_eq_some_iff.1 hescaped with ⟨unit, digits, hunit, hfirst, rfl, rfl⟩ |
            ⟨first, second, digits, digits', hunit, hfirst, hunit', hsecond, rfl, rfl⟩ |
            ⟨first, digits, hunit, hfirst, hnone, rfl, rfl⟩
          · exact ⟨_, .unit hunit hfirst hwritten, by simp [escape]⟩
          · exact ⟨_, .pair hunit hfirst hunit' hsecond hwritten, by simp [escape]⟩
          · refine ⟨_, .alone hunit hfirst ?_ hwritten, by simp [escape]⟩
            rintro second digits' tail hunit' rfl
            rw [Bool.eq_false_iff]
            intro hsecond
            rw [List.append_assoc, readSecond?_escape hunit' hsecond] at hnone
            exact absurd hnone (by simp)
      · next letter tail _ =>
          simp only [Option.bind_eq_bind, Option.bind_eq_some_iff] at h
          obtain ⟨c, hletter, ⟨more, after⟩, hmore, h⟩ := h
          simp only [Option.some.injEq, Prod.mk.injEq] at h
          obtain ⟨rfl, rfl⟩ := h
          obtain ⟨written, hwritten, rfl⟩ := ih hmore
          exact ⟨_, .letter hletter hwritten, rfl⟩
      · next c tail hquote _ _ =>
          split at h
          · simp at h
          · next hplain =>
              simp only [Option.bind_eq_bind, Option.bind_eq_some_iff] at h
              obtain ⟨⟨more, after⟩, hmore, h⟩ := h
              simp only [Option.some.injEq, Prod.mk.injEq] at h
              obtain ⟨rfl, rfl⟩ := h
              obtain ⟨written, hwritten, rfl⟩ := ih hmore
              rw [not_or, Nat.not_lt] at hplain
              exact ⟨_, .plain (fun he => hquote (he ▸ rfl)) hplain.1 hplain.2 hwritten, rfl⟩
      · simp only [Option.bind_eq_bind, Option.bind_eq_some_iff] at h
        obtain ⟨⟨more, after⟩, hmore, h⟩ := h
        simp only [Option.some.injEq, Prod.mk.injEq] at h
        obtain ⟨rfl, rfl⟩ := h
        obtain ⟨written, hwritten, rfl⟩ := ih hmore
        exact ⟨_, .half hwritten, rfl⟩

theorem readSymbols_of_writesText {text written : List Symbol} (h : WritesText text written) (rest : List Symbol)
    {fuel : Nat} (hfuel : written.length < fuel) :
    readSymbols fuel (written ++ .char '"' :: rest) = some (text, rest) := by
  induction h generalizing fuel with
  | nil =>
      obtain ⟨fuel, rfl⟩ := Nat.exists_eq_succ_of_ne_zero (Nat.ne_zero_of_lt hfuel)
      rfl
  | @plain c text doc hquote hslash hcontrol _ ih =>
      obtain ⟨fuel, rfl⟩ := Nat.exists_eq_succ_of_ne_zero (Nat.ne_zero_of_lt hfuel)
      have hrest := ih (Nat.lt_of_succ_lt_succ hfuel)
      simp [readSymbols, hrest, hslash, hcontrol]
  | @half unit text doc _ ih =>
      obtain ⟨fuel, rfl⟩ := Nat.exists_eq_succ_of_ne_zero (Nat.ne_zero_of_lt hfuel)
      have hrest := ih (Nat.lt_of_succ_lt_succ hfuel)
      simp [readSymbols, hrest]
  | @letter letter c text doc hletter _ ih =>
      obtain ⟨fuel, rfl⟩ := Nat.exists_eq_succ_of_ne_zero (Nat.ne_zero_of_lt hfuel)
      have hrest := ih (Nat.lt_of_succ_lt (Nat.lt_of_succ_lt_succ hfuel))
      have hunit : escapedChar? 'u' = none := by decide
      have hne : letter ≠ 'u' := by
        rintro rfl
        exact absurd (hunit.symm.trans hletter) (by simp)
      simp [readSymbols, hrest, hletter]
  | @unit unit digits text doc hunit hfirst _ ih =>
      obtain ⟨fuel, rfl⟩ := Nat.exists_eq_succ_of_ne_zero (Nat.ne_zero_of_lt hfuel)
      have hescaped : readEscaped? (digits ++ (doc ++ .char '"' :: rest)) = some (.ofPoint unit, _) :=
        readEscaped?_eq_some_iff.2 (Or.inl ⟨unit, digits, hunit, hfirst, rfl, rfl⟩)
      simp only [escape, List.cons_append, List.length_cons, List.length_append] at hfuel
      have hrest := ih (show doc.length < fuel by omega)
      simp [readSymbols, escape, hescaped, hrest]
  | @pair first second digits digits' text doc hunit hfirst hunit' hsecond _ ih =>
      obtain ⟨fuel, rfl⟩ := Nat.exists_eq_succ_of_ne_zero (Nat.ne_zero_of_lt hfuel)
      have hescaped : readEscaped? (digits ++ (escape digits' ++ (doc ++ .char '"' :: rest)))
          = some (.ofPair first second, _) :=
        readEscaped?_eq_some_iff.2
          (Or.inr (Or.inl ⟨first, second, digits, digits', hunit, hfirst, hunit', hsecond, rfl, rfl⟩))
      simp only [escape, List.cons_append, List.length_cons, List.length_append] at hfuel
      have hrest := ih (show doc.length < fuel by omega)
      simp only [escape, List.cons_append] at hescaped
      simp [readSymbols, escape, hescaped, hrest]
  | @alone first digits text doc hunit hfirst halone _ ih =>
      obtain ⟨fuel, rfl⟩ := Nat.exists_eq_succ_of_ne_zero (Nat.ne_zero_of_lt hfuel)
      have hnone : readSecond? (doc ++ .char '"' :: rest) = none := by
        rw [Option.eq_none_iff_forall_ne_some]
        rintro ⟨second, more⟩ hfound
        obtain ⟨digits', hunit', hsecond, hdoc⟩ := readSecond?_eq_some_iff.1 hfound
        obtain ⟨tail, rfl⟩ := exists_append_of_not_mem hdoc (quote_not_mem_escape hunit')
        rw [halone second digits' tail hunit' rfl] at hsecond
        exact Bool.noConfusion hsecond
      have hescaped : readEscaped? (digits ++ (doc ++ .char '"' :: rest)) = some (.half first, _) :=
        readEscaped?_eq_some_iff.2 (Or.inr (Or.inr ⟨first, digits, hunit, hfirst, hnone, rfl, rfl⟩))
      simp only [escape, List.cons_append, List.length_cons, List.length_append] at hfuel
      have hrest := ih (show doc.length < fuel by omega)
      simp [readSymbols, escape, hescaped, hrest]

/-! ## Quoted texts -/

theorem allows_iff {dialect : Dialect} {text : List Symbol} :
    (dialect.allowsHalves || !text.any Symbol.isHalf) = true ↔ dialect.Allows text := by
  unfold Dialect.Allows
  simp

/-- A text whose opening quote was read is read exactly where the grammar writes it. -/
theorem readText_eq_ok_iff {dialect : Dialect} {text : List Symbol} :
    readText dialect doc = .ok (text, rest) ↔
      ∃ quoted, WritesQuoted dialect text quoted ∧ .char '"' :: doc = quoted ++ rest := by
  have hok : readText dialect doc = .ok (text, rest) ↔
      readSymbols (doc.length + 1) doc = some (text, rest) ∧ dialect.Allows text := by
    unfold readText orMalformed
    rw [← allows_iff]
    cases readSymbols (doc.length + 1) doc with
    | none => simp
    | some part =>
        obtain ⟨found, after⟩ := part
        rw [Option.filter_some]
        by_cases hallowed : (dialect.allowsHalves || !found.any Symbol.isHalf) = true
        · rw [if_pos hallowed]
          simp only [Except.ok.injEq, Option.some.injEq, Prod.mk.injEq]
          exact ⟨fun h => ⟨h, h.1 ▸ hallowed⟩, And.left⟩
        · rw [if_neg hallowed]
          simp only [reduceCtorEq, Option.some.injEq, Prod.mk.injEq, false_iff, not_and]
          rintro ⟨rfl, _⟩
          exact hallowed
  rw [hok]
  constructor
  · rintro ⟨hsymbols, hallowed⟩
    obtain ⟨written, hwritten, rfl⟩ := exists_writesText_of_readSymbols hsymbols
    exact ⟨_, .intro hwritten hallowed, by simp⟩
  · rintro ⟨quoted, hquoted, hdoc⟩
    cases hquoted with
    | @intro written hwritten hallowed =>
        obtain rfl : doc = written ++ .char '"' :: rest := by simpa using hdoc
        refine ⟨readSymbols_of_writesText hwritten rest ?_, hallowed⟩
        rw [List.length_append]
        omega

end PromptCanvas.Json
