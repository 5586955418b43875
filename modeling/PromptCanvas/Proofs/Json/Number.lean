import Mathlib.Data.List.Basic
import PromptCanvas.Json.Grammar
import PromptCanvas.Proofs.Text.Search

set_option autoImplicit false

/-! # Reading numbers and words of documents

The reader of numbers takes the longest number that a document starts with. It takes just the number that the
grammar writes where what follows does not go on with it (`Ends`): no digit, no point and no letter of an
exponent. White space, commas and brackets that close do not. -/

namespace PromptCanvas.Json

open Text

variable {doc rest : List Symbol} {digits : List Char} {dialect : Dialect} {value : Json}

theorem symbols_append (cs cs' : List Char) : symbols (cs ++ cs') = symbols cs ++ symbols cs' := List.map_append

theorem symbols_cons (c : Char) (cs : List Char) : symbols (c :: cs) = .char c :: symbols cs := rfl

/-! ## What follows -/

/-- No digit is next. -/
def NoDigit (doc : List Symbol) : Prop := ∀ c, doc.head? = some (.char c) → isDigit c = false

/-- Nothing with which a number goes on is next. -/
def Ends (doc : List Symbol) : Prop :=
  ∀ c, doc.head? = some (.char c) → isDigit c = false ∧ c ≠ '.' ∧ c ≠ 'e' ∧ c ≠ 'E'

theorem Ends.noDigit (h : Ends doc) : NoDigit doc := fun c hc => (h c hc).1

theorem noDigit_cons {c : Char} (h : isDigit c = false) (doc : List Symbol) : NoDigit (.char c :: doc) := by
  intro c' hc'
  obtain rfl : c = c' := by simpa using hc'
  exact h

theorem ends_nil : Ends [] := fun c hc => by simp at hc

theorem ends_cons {c : Char} (h : isDigit c = false ∧ c ≠ '.' ∧ c ≠ 'e' ∧ c ≠ 'E') (doc : List Symbol) :
    Ends (.char c :: doc) := by
  intro c' hc'
  obtain rfl : c = c' := by simpa using hc'
  exact h

/-- White space ends a number, and so does what follows it if that would. -/
theorem ends_append {space : List Symbol} (hspace : IsSpace space) (h : Ends doc) : Ends (space ++ doc) := by
  cases space with
  | nil => exact h
  | cons symbol space =>
      have hskipped := hspace symbol List.mem_cons_self
      cases symbol with
      | half unit => exact absurd hskipped (by simp [isSkipped])
      | char c =>
          simp only [isSkipped, Bool.or_eq_true, beq_iff_eq] at hskipped
          rcases hskipped with ((rfl | rfl) | rfl) | rfl
          all_goals exact ends_cons (by decide) _

/-! ## Digits -/

theorem readDigits_eq (h : readDigits doc = (digits, rest)) :
    doc = symbols digits ++ rest ∧ (∀ c ∈ digits, isDigit c = true) ∧ NoDigit rest := by
  induction doc generalizing digits with
  | nil =>
      simp only [readDigits, Prod.mk.injEq] at h
      obtain ⟨rfl, rfl⟩ := h
      exact ⟨rfl, by simp, fun c hc => by simp at hc⟩
  | cons symbol tail ih =>
      cases symbol with
      | half unit =>
          simp only [readDigits, Prod.mk.injEq] at h
          obtain ⟨rfl, rfl⟩ := h
          exact ⟨rfl, by simp, fun c hc => by simp at hc⟩
      | char c =>
          rw [readDigits] at h
          by_cases hdigit : isDigit c = true
          · rw [if_pos hdigit, Prod.mk.injEq] at h
            obtain ⟨rfl, rfl⟩ := h
            obtain ⟨htail, hdigits, hends⟩ := ih rfl
            exact ⟨congrArg (Symbol.char c :: ·) htail, List.forall_mem_cons.2 ⟨hdigit, hdigits⟩, hends⟩
          · rw [if_neg hdigit, Prod.mk.injEq] at h
            obtain ⟨rfl, rfl⟩ := h
            exact ⟨rfl, by simp, noDigit_cons (by simpa using hdigit) tail⟩

theorem readDigits_append (hdigits : ∀ c ∈ digits, isDigit c = true) (hrest : NoDigit rest) :
    readDigits (symbols digits ++ rest) = (digits, rest) := by
  induction digits with
  | nil =>
      cases rest with
      | nil => rfl
      | cons symbol tail =>
          cases symbol with
          | half unit => rfl
          | char c =>
              show readDigits (.char c :: tail) = _
              rw [readDigits, hrest c rfl, if_neg Bool.false_ne_true]
  | cons c digits ih =>
      rw [List.forall_mem_cons] at hdigits
      show readDigits (.char c :: (symbols digits ++ rest)) = _
      rw [readDigits, if_pos hdigits.1, ih hdigits.2]

/-! ## Parts of a number -/

theorem readWhole_eq (h : readWhole doc = (digits, rest)) (hdigits : digits ≠ []) :
    IsWhole digits ∧ doc = symbols digits ++ rest := by
  unfold readWhole at h
  split at h
  · next tail =>
      obtain ⟨rfl, rfl⟩ := Prod.mk.inj h
      exact ⟨Or.inl rfl, rfl⟩
  · next hzero =>
      obtain ⟨rfl, hall, _⟩ := readDigits_eq h
      refine ⟨Or.inr ⟨⟨hdigits, hall⟩, fun hhead => ?_⟩, rfl⟩
      obtain ⟨tail, rfl⟩ := List.head?_eq_some_iff.1 hhead
      exact hzero _ rfl

theorem readWhole_append (h : IsWhole digits) (hrest : NoDigit rest) :
    readWhole (symbols digits ++ rest) = (digits, rest) := by
  rcases h with rfl | ⟨⟨hne, hall⟩, hhead⟩
  · rfl
  · obtain ⟨c, digits, rfl⟩ := List.exists_cons_of_ne_nil hne
    have hzero : c ≠ '0' := fun he => hhead (by rw [he, List.head?_cons])
    rw [← readDigits_append hall hrest]
    simp [readWhole, symbols_cons, hzero]

theorem readFraction_eq {fraction : List Char} (h : readFraction doc = (fraction, rest)) :
    ∃ decimals, WritesFraction fraction decimals ∧ doc = symbols decimals ++ rest := by
  unfold readFraction at h
  split at h
  · next tail =>
      rcases hdigits : readDigits tail with ⟨found, after⟩
      obtain ⟨htail, hall, _⟩ := readDigits_eq hdigits
      simp only [hdigits] at h
      split at h
      · obtain ⟨rfl, rfl⟩ := Prod.mk.inj h
        exact ⟨[], .none, rfl⟩
      · next hne =>
          obtain ⟨rfl, rfl⟩ := Prod.mk.inj h
          exact ⟨_, .some ⟨hne, hall⟩, by rw [htail]; rfl⟩
  · obtain ⟨rfl, rfl⟩ := Prod.mk.inj h
    exact ⟨[], .none, rfl⟩

theorem readFraction_append {fraction decimals : List Char} (h : WritesFraction fraction decimals)
    (hrest : NoDigit rest) (hpoint : rest.head? ≠ some (.char '.')) :
    readFraction (symbols decimals ++ rest) = (fraction, rest) := by
  cases h with
  | none =>
      show readFraction rest = _
      unfold readFraction
      split
      · exact absurd rfl hpoint
      · rfl
  | some h =>
      show readFraction (.char '.' :: (symbols fraction ++ rest)) = _
      simp only [readFraction, readDigits_append h.2 hrest, if_neg h.1]

theorem readPowerSign_digits (h : AreDigits digits) (rest : List Symbol) :
    readPowerSign (symbols digits ++ rest) = (false, symbols digits ++ rest) := by
  obtain ⟨c, tail, rfl⟩ := List.exists_cons_of_ne_nil h.1
  have hc := h.2 c List.mem_cons_self
  show readPowerSign (.char c :: (symbols tail ++ rest)) = _
  unfold readPowerSign
  split
  · next heq =>
      obtain ⟨⟨rfl⟩, _⟩ := List.cons.inj heq
      exact absurd hc (by decide)
  · next heq =>
      obtain ⟨⟨rfl⟩, _⟩ := List.cons.inj heq
      exact absurd hc (by decide)
  · rfl

theorem readPower?_eq {power : Int} (h : readPower? doc = some (power, rest)) :
    ∃ exponent, WritesPower (some power) exponent ∧ doc = symbols exponent ++ rest := by
  unfold readPower? at h
  split at h
  · next c tail =>
      split at h
      · next hletter =>
          rcases hsign : readPowerSign tail with ⟨negative, after⟩
          rcases hdigits : readDigits after with ⟨found, last⟩
          obtain ⟨rfl, hall, _⟩ := readDigits_eq hdigits
          simp only [hsign, hdigits] at h
          split at h
          · simp at h
          · next hne =>
              simp only [Option.some.injEq, Prod.mk.injEq] at h
              obtain ⟨rfl, rfl⟩ := h
              unfold readPowerSign at hsign
              split at hsign
              · obtain ⟨rfl, rfl⟩ := Prod.mk.inj hsign
                exact ⟨_, .minus hletter ⟨hne, hall⟩, rfl⟩
              · obtain ⟨rfl, rfl⟩ := Prod.mk.inj hsign
                exact ⟨_, .plus hletter ⟨hne, hall⟩, rfl⟩
              · obtain ⟨rfl, rfl⟩ := Prod.mk.inj hsign
                exact ⟨_, .plain hletter ⟨hne, hall⟩, rfl⟩
      · simp at h
  · simp at h

theorem readPower?_append {power : Int} {exponent : List Char} (h : WritesPower (some power) exponent)
    (hrest : NoDigit rest) : readPower? (symbols exponent ++ rest) = some (power, rest) := by
  cases h with
  | @plain letter digits hletter hdigits =>
      show readPower? (.char letter :: (symbols digits ++ rest)) = _
      simp [readPower?, hletter, readPowerSign_digits hdigits, readDigits_append hdigits.2 hrest, hdigits.1]
  | @plus letter digits hletter hdigits =>
      show readPower? (.char letter :: .char '+' :: (symbols digits ++ rest)) = _
      simp [readPower?, hletter, readPowerSign, readDigits_append hdigits.2 hrest, hdigits.1]
  | @minus letter digits hletter hdigits =>
      show readPower? (.char letter :: .char '-' :: (symbols digits ++ rest)) = _
      simp [readPower?, hletter, readPowerSign, readDigits_append hdigits.2 hrest, hdigits.1]

theorem readPower?_eq_none (h : Ends doc) : readPower? doc = none := by
  unfold readPower?
  split
  · next c tail =>
      obtain ⟨_, _, he, hE⟩ := h c rfl
      rw [if_neg (by simp [he, hE])]
  · rfl

/-! ## Numbers without a sign -/

theorem exponent_starts {power : Option Int} {exponent : List Char} (h : WritesPower power exponent)
    (hrest : Ends rest) :
    NoDigit (symbols exponent ++ rest) ∧ (symbols exponent ++ rest).head? ≠ some (.char '.') := by
  have hstarts : ∀ {letter : Char} (tail : List Symbol), letter = 'e' ∨ letter = 'E' →
      NoDigit (.char letter :: tail) ∧ (Symbol.char letter :: tail).head? ≠ some (.char '.') := by
    rintro letter tail (rfl | rfl)
    · exact ⟨noDigit_cons (by decide) tail, by simp⟩
    · exact ⟨noDigit_cons (by decide) tail, by simp⟩
  cases h with
  | none => exact ⟨hrest.noDigit, fun hhead => (hrest '.' hhead).2.1 rfl⟩
  | plain hletter _ => exact hstarts _ hletter
  | plus hletter _ => exact hstarts _ hletter
  | minus hletter _ => exact hstarts _ hletter

theorem noDigit_fraction {fraction decimals : List Char} (h : WritesFraction fraction decimals)
    (hrest : NoDigit rest) : NoDigit (symbols decimals ++ rest) := by
  cases h with
  | none => exact hrest
  | some _ => exact noDigit_cons (by decide) _

theorem readUnsigned_eq {negative : Bool} (h : readUnsigned dialect negative doc = .ok (value, rest)) :
    ∃ cs, WritesUnsigned dialect negative value cs ∧ doc = symbols cs ++ rest := by
  unfold readUnsigned at h
  rcases hwhole : readWhole doc with ⟨digits, rest₁⟩
  rcases hfraction : readFraction rest₁ with ⟨fraction, rest₂⟩
  simp only [hwhole, hfraction] at h
  split at h
  · simp at h
  next hdigits =>
  obtain ⟨hdigits, rfl⟩ := readWhole_eq hwhole hdigits
  obtain ⟨decimals, hdecimals, rfl⟩ := readFraction_eq hfraction
  split at h
  · simp at h
  next hlimit =>
  rw [Bool.and_eq_true, Bool.or_eq_true, not_and, Bool.not_eq_true] at hlimit
  cases hpower : readPower? rest₂ with
  | some part =>
      obtain ⟨power, rest₃⟩ := part
      obtain ⟨exponent, hexponent, rfl⟩ := readPower?_eq hpower
      rw [hpower] at h hlimit
      simp only [Option.isNone_some, Bool.and_false, Bool.false_eq_true, if_false, Except.ok.injEq,
        Prod.mk.injEq] at h
      obtain ⟨rfl, rfl⟩ := h
      refine ⟨_, .float hdigits hdecimals hexponent (fun hnot => by simp at hnot)
        fun hsome => hlimit (Or.inr hsome), ?_⟩
      simp only [symbols_append, List.append_assoc]
      rfl
  | none =>
      rw [hpower] at h hlimit
      by_cases hempty : fraction = []
      · subst hempty
        cases hdecimals with
        | none =>
            simp only [List.isEmpty_nil, Option.isNone_none, Bool.and_self, if_true, Except.ok.injEq,
              Prod.mk.injEq] at h
            obtain ⟨rfl, rfl⟩ := h
            exact ⟨digits, .int hdigits (hlimit (Or.inl rfl)), rfl⟩
        | some hsome => exact absurd rfl hsome.1
      · have hpart : (fraction.isEmpty && (none : Option (Taken Int)).isNone) = false := by simp [hempty]
        rw [hpart] at h hlimit
        simp only [Bool.false_eq_true, if_false, Except.ok.injEq, Prod.mk.injEq] at h
        obtain ⟨rfl, rfl⟩ := h
        refine ⟨digits ++ (decimals ++ []), .float hdigits hdecimals .none (fun hnot => hempty hnot.1)
          fun hsome => hlimit (Or.inr hsome), ?_⟩
        simp only [symbols_append, List.append_assoc, List.append_nil]
        rfl

theorem readUnsigned_append {negative : Bool} {cs : List Char} (h : WritesUnsigned dialect negative value cs)
    (hrest : Ends rest) : readUnsigned dialect negative (symbols cs ++ rest) = .ok (value, rest) := by
  have hne : ∀ {digits : List Char}, IsWhole digits → digits ≠ [] := by
    rintro digits (rfl | h)
    · exact List.cons_ne_nil _ _
    · exact h.1.1
  cases h with
  | int hwhole hlimit =>
      have hfraction : readFraction rest = ([], rest) :=
        readFraction_append .none hrest.noDigit fun hhead => (hrest '.' hhead).2.1 rfl
      simp [readUnsigned, readWhole_append hwhole hrest.noDigit, hne hwhole, hfraction, readPower?_eq_none hrest,
        hlimit]
  | @float digits fraction decimals exponent power hwhole hfraction hpower hpart hlimit =>
      obtain ⟨hdigit, hpoint⟩ := exponent_starts hpower hrest
      rw [symbols_append, symbols_append, List.append_assoc, List.append_assoc]
      have hwhole' := readWhole_append hwhole (noDigit_fraction hfraction hdigit)
      have hfraction' := readFraction_append hfraction hdigit hpoint
      have hlimit' : (dialect.limitsFractions && dialect.exceeds digits) = false := by
        rw [Bool.and_eq_false_imp]
        exact hlimit
      cases power with
      | none =>
          cases hpower with
          | none =>
              have hsome : fraction.isEmpty = false := by simpa using hpart
              have hnone : readPower? (symbols [] ++ rest) = none := readPower?_eq_none hrest
              simp [readUnsigned, hwhole', hne hwhole, hfraction', hnone, hsome, hlimit']
              rfl
      | some power =>
          have hpower' := readPower?_append hpower hrest.noDigit
          simp [readUnsigned, hwhole', hne hwhole, hfraction', hpower', hlimit']

/-! ## Words -/

theorem afterWord?_eq_some_iff {word : String} :
    afterWord? word doc = some rest ↔ doc = symbols word.toList ++ rest := after?_eq_some_iff

theorem mem_words_of_readWord? (h : readWord? doc = some (value, rest)) :
    ∃ word, (word, value) ∈ words ∧ doc = symbols word.toList ++ rest := by
  unfold readWord? at h
  obtain ⟨entry, hentry, hfound⟩ := List.exists_of_findSome?_eq_some h
  obtain ⟨after, hafter, heq⟩ := Option.map_eq_some_iff.1 hfound
  obtain ⟨rfl, rfl⟩ := Prod.mk.inj heq
  exact ⟨entry.1, hentry, afterWord?_eq_some_iff.1 hafter⟩

theorem readWord?_eq_none {c : Char} (h : isDigit c = true ∨ c = '-') (tail : List Symbol) :
    readWord? (.char c :: tail) = none := by
  have hother : ∀ d, isDigit d = false → d ≠ '-' → d ≠ c := by
    rintro d hdigit hminus rfl
    exact h.elim (fun hc => Bool.false_ne_true (hdigit.symm.trans hc)) hminus
  rw [readWord?, List.findSome?_eq_none_iff]
  intro entry hentry
  rw [Option.map_eq_none_iff, afterWord?, after?_eq_none_iff]
  rintro ⟨after, hafter⟩
  simp only [words, List.mem_cons, List.not_mem_nil, or_false] at hentry
  rcases hentry with rfl | rfl | rfl | rfl | rfl
  · exact hother 'n' (by decide) (by decide) (Symbol.char.inj (List.cons.inj hafter).1)
  · exact hother 't' (by decide) (by decide) (Symbol.char.inj (List.cons.inj hafter).1)
  · exact hother 'f' (by decide) (by decide) (Symbol.char.inj (List.cons.inj hafter).1)
  · exact hother 'N' (by decide) (by decide) (Symbol.char.inj (List.cons.inj hafter).1)
  · exact hother 'I' (by decide) (by decide) (Symbol.char.inj (List.cons.inj hafter).1)

/-- No word starts with another one, so that each is found. -/
theorem readWord?_append {word : String} (h : (word, value) ∈ words) (rest : List Symbol) :
    readWord? (symbols word.toList ++ rest) = some (value, rest) := by
  simp only [words, List.mem_cons, Prod.mk.injEq, List.not_mem_nil, or_false] at h
  rcases h with ⟨rfl, rfl⟩ | ⟨rfl, rfl⟩ | ⟨rfl, rfl⟩ | ⟨rfl, rfl⟩ | ⟨rfl, rfl⟩ <;> rfl

/-! ## Atoms -/

theorem readNumber_eq (h : readNumber dialect doc = .ok (value, rest)) :
    ∃ written, WritesAtom dialect value written ∧ doc = written ++ rest := by
  unfold readNumber at h
  split at h
  · next tail =>
      split at h
      · next after hafter =>
          simp only [Except.ok.injEq, Prod.mk.injEq] at h
          obtain ⟨rfl, rfl⟩ := h
          exact ⟨_, .infinite, by rw [afterWord?_eq_some_iff.1 hafter]; rfl⟩
      · obtain ⟨cs, hcs, rfl⟩ := readUnsigned_eq h
        exact ⟨_, .negative hcs, rfl⟩
  · obtain ⟨cs, hcs, rfl⟩ := readUnsigned_eq h
    exact ⟨_, .positive hcs, rfl⟩

theorem readAtom_eq (h : readAtom dialect doc = .ok (value, rest)) :
    ∃ written, WritesAtom dialect value written ∧ doc = written ++ rest := by
  unfold readAtom at h
  split at h
  · next part hword =>
      obtain rfl := Except.ok.inj h
      obtain ⟨word, hmem, rfl⟩ := mem_words_of_readWord? hword
      exact ⟨_, .word hmem, rfl⟩
  · exact readNumber_eq h

/-- A number without its sign starts with a digit. -/
theorem exists_digit_of_writesUnsigned {negative : Bool} {cs : List Char}
    (h : WritesUnsigned dialect negative value cs) : ∃ c tail, cs = c :: tail ∧ isDigit c = true := by
  have hstart : ∀ {digits : List Char}, IsWhole digits →
      ∃ c tail, digits = c :: tail ∧ isDigit c = true := by
    rintro digits (rfl | ⟨⟨hne, hall⟩, _⟩)
    · exact ⟨'0', [], rfl, by decide⟩
    · obtain ⟨c, tail, rfl⟩ := List.exists_cons_of_ne_nil hne
      exact ⟨c, tail, rfl, hall c List.mem_cons_self⟩
  cases h with
  | int hwhole _ => exact hstart hwhole
  | float hwhole _ _ _ _ =>
      obtain ⟨c, tail, rfl, hc⟩ := hstart hwhole
      exact ⟨c, _, rfl, hc⟩

theorem readAtom_append {written : List Symbol} (h : WritesAtom dialect value written) (hrest : Ends rest) :
    readAtom dialect (written ++ rest) = .ok (value, rest) := by
  cases h with
  | word hmem => rw [readAtom, readWord?_append hmem]
  | infinite =>
      have hnone : readWord? (.char '-' :: (symbols "Infinity".toList ++ rest)) = none :=
        readWord?_eq_none (Or.inr rfl) _
      have hword : afterWord? "Infinity" (symbols "Infinity".toList ++ rest) = some rest :=
        afterWord?_eq_some_iff.2 rfl
      rw [symbols_cons, List.cons_append, readAtom, hnone]
      simp only [readNumber, hword]
  | positive hcs =>
      have hunsigned := readUnsigned_append hcs hrest
      obtain ⟨c, tail, rfl, hc⟩ := exists_digit_of_writesUnsigned hcs
      rw [symbols_cons, List.cons_append] at hunsigned ⊢
      rw [readAtom, readWord?_eq_none (Or.inl hc)]
      have hminus : c ≠ '-' := by
        rintro rfl
        exact absurd hc (by decide)
      simp only [readNumber]
      split
      · next heq =>
          exact absurd (Symbol.char.inj (List.cons.inj heq).1) hminus
      · exact hunsigned
  | @negative _ cs hcs =>
      have hunsigned := readUnsigned_append hcs hrest
      obtain ⟨c, tail, rfl, hc⟩ := exists_digit_of_writesUnsigned hcs
      have hword : afterWord? "Infinity" (symbols (c :: tail) ++ rest) = none := by
        rw [afterWord?, after?_eq_none_iff]
        rintro ⟨after, hafter⟩
        obtain rfl : 'I' = c := Symbol.char.inj (List.cons.inj hafter).1
        exact absurd hc (by decide)
      rw [symbols_cons, List.cons_append, readAtom, readWord?_eq_none (Or.inr rfl)]
      simp only [readNumber, hword]
      exact hunsigned

end PromptCanvas.Json
