import PromptCanvas.Proofs.Json.Number
import PromptCanvas.Proofs.Json.Text
import PromptCanvas.Proofs.Text.Trim
import PromptCanvas.Proofs.Validation.Checked

set_option autoImplicit false

/-! # Reading documents

The reader takes the documents of the grammar and no others, each for the value that it writes
(`read_eq_ok_iff`). `Reads` states the three functions of the reader as one relation, so that either direction is
one induction: on the fuel for what is read, on the derivation for what is written. Both go through the same
equations for one step. Items and fields end with a closing bracket or brace; after a value it matters what
follows, as a number goes on as far as it can. -/

namespace PromptCanvas.Json

open Text

variable {doc rest space : List Symbol} {dialect : Dialect} {fuel depth : Nat}

/-! ## White space -/

theorem exists_eq_append_skipSpace (doc : List Symbol) : ∃ space, IsSpace space ∧ doc = space ++ skipSpace doc :=
  ⟨doc.takeWhile isSkipped, fun _ h => List.mem_takeWhile_imp h, List.takeWhile_append_dropWhile.symm⟩

theorem skipSpace_append {c : Char} (hspace : IsSpace space) (hc : isSkipped (.char c) = false)
    (tail : List Symbol) : skipSpace (space ++ .char c :: tail) = .char c :: tail :=
  dropWhile_append_eq hspace fun symbol hhead => by
    obtain rfl : Symbol.char c = symbol := by simpa using hhead
    exact hc

theorem exists_eq_append_of_skipSpace {tail : List Symbol} (h : skipSpace doc = tail) :
    ∃ space, IsSpace space ∧ doc = space ++ tail :=
  h ▸ exists_eq_append_skipSpace doc

/-! ## Starts -/

/-- A document starts with a character that is neither white space nor closes something. -/
def Starts (doc : List Symbol) : Prop :=
  ∃ c tail, doc = .char c :: tail ∧ isSkipped (.char c) = false ∧ c ≠ ']' ∧ c ≠ '\x7d'

theorem starts_append (h : Starts doc) (rest : List Symbol) : Starts (doc ++ rest) := by
  obtain ⟨c, tail, rfl, hc⟩ := h
  exact ⟨c, tail ++ rest, rfl, hc⟩

/-- A single word or a number starts with none of the characters with which other values start. -/
theorem exists_start_of_writesAtom {value : Json} (h : WritesAtom dialect value doc) :
    ∃ c tail, doc = .char c :: tail ∧ isSkipped (.char c) = false ∧
      c ∉ ['"', '[', ']', '\x7b', '\x7d'] := by
  have hdigit : ∀ {c : Char}, isDigit c = true →
      isSkipped (.char c) = false ∧ c ∉ ['"', '[', ']', '\x7b', '\x7d'] := by
    intro c hc
    constructor
    · rw [Bool.eq_false_iff]
      intro hskipped
      simp only [isSkipped, Bool.or_eq_true, beq_iff_eq] at hskipped
      rcases hskipped with ((rfl | rfl) | rfl) | rfl
      all_goals exact absurd hc (by decide)
    · intro hmem
      simp only [List.mem_cons, List.not_mem_nil, or_false] at hmem
      rcases hmem with rfl | rfl | rfl | rfl | rfl
      all_goals exact absurd hc (by decide)
  cases h with
  | word hmem =>
      simp only [words, List.mem_cons, Prod.mk.injEq, List.not_mem_nil, or_false] at hmem
      rcases hmem with ⟨rfl, _⟩ | ⟨rfl, _⟩ | ⟨rfl, _⟩ | ⟨rfl, _⟩ | ⟨rfl, _⟩
      all_goals exact ⟨_, _, rfl, by decide, by decide⟩
  | infinite => exact ⟨'-', _, rfl, by decide, by decide⟩
  | positive hcs =>
      obtain ⟨c, tail, rfl, hc⟩ := exists_digit_of_writesUnsigned hcs
      exact ⟨c, _, rfl, hdigit hc⟩
  | negative _ => exact ⟨'-', _, rfl, by decide, by decide⟩

theorem starts_of_writesQuoted {text quoted : List Symbol} (h : WritesQuoted dialect text quoted) :
    Starts quoted := by
  cases h with
  | intro _ _ => exact ⟨'"', _, rfl, by decide, by decide, by decide⟩

theorem starts_of_writes {phrase : Phrase} (h : Writes dialect depth phrase doc) : Starts doc := by
  induction h with
  | atom h =>
      obtain ⟨c, tail, rfl, hskipped, hc⟩ := exists_start_of_writesAtom h
      simp only [List.mem_cons, not_or] at hc
      exact ⟨c, tail, rfl, hskipped, hc.2.2.1, hc.2.2.2.2.1⟩
  | text h => exact starts_of_writesQuoted h
  | emptyList _ => exact ⟨'[', _, rfl, by decide, by decide, by decide⟩
  | list _ _ _ => exact ⟨'[', _, rfl, by decide, by decide, by decide⟩
  | emptyObject _ => exact ⟨'\x7b', _, rfl, by decide, by decide, by decide⟩
  | object _ _ _ => exact ⟨'\x7b', _, rfl, by decide, by decide, by decide⟩
  | lastItem _ _ ih => exact starts_append ih _
  | nextItem _ _ _ _ ih _ => exact starts_append ih _
  | lastField hname _ _ _ _ _ => exact starts_append (starts_of_writesQuoted hname) _
  | nextField hname _ _ _ _ _ _ _ _ => exact starts_append (starts_of_writesQuoted hname) _

theorem skipSpace_append_of_starts (hspace : IsSpace space) (h : Starts doc) : skipSpace (space ++ doc) = doc := by
  obtain ⟨c, tail, rfl, hc, _⟩ := h
  exact skipSpace_append hspace hc tail

/-! ## One step -/

theorem map_part_eq_ok_iff {α β : Type} {x : Except Refusal (Taken α)} {f : α → β} {b : β} :
    (x.map fun part => (f part.1, part.2)) = .ok (b, rest) ↔ ∃ a, b = f a ∧ x = .ok (a, rest) := by
  cases x with
  | error refusal => simp [Except.map]
  | ok part =>
      obtain ⟨a, after⟩ := part
      simp only [Except.map, Except.ok.injEq, Prod.mk.injEq]
      constructor
      · rintro ⟨rfl, rfl⟩
        exact ⟨a, rfl, rfl, rfl⟩
      · rintro ⟨_, rfl, rfl, rfl⟩
        exact ⟨rfl, rfl⟩

theorem head?_ne_of_forall {symbol : Symbol} (h : ∀ tail, doc = symbol :: tail → False) :
    doc.head? ≠ some symbol := fun hhead =>
  (List.head?_eq_some_iff.1 hhead).elim h

theorem readValue_text_eq_ok_iff {value : Json} :
    readValue dialect (fuel + 1) depth (.char '"' :: doc) = .ok (value, rest) ↔
      ∃ text, value = .ofSymbols text ∧ readText dialect doc = .ok (text, rest) := by
  rw [readValue, map_part_eq_ok_iff]

/-- What a list comes to: nothing before the bracket that closes it, or items one level deeper. -/
theorem readValue_list_eq_ok_iff {value : Json} :
    readValue dialect (fuel + 1) depth (.char '[' :: doc) = .ok (value, rest) ↔
      value = .arr [] ∧ skipSpace doc = .char ']' :: rest ∨
      (skipSpace doc).head? ≠ some (.char ']') ∧ ∃ deeper items, depth = deeper + 1 ∧ value = .arr items ∧
        readItems dialect fuel deeper (skipSpace doc) = .ok (items, rest) := by
  rw [readValue]
  split
  · next tail hspace => simp [hspace, eq_comm]
  · next hspace =>
      rw [or_iff_right fun h => hspace rest h.2, and_iff_right (head?_ne_of_forall hspace)]
      cases depth with
      | zero => simp
      | succ deeper => simp [map_part_eq_ok_iff]

/-- What an object comes to: nothing before the brace that closes it, or fields one level deeper. -/
theorem readValue_object_eq_ok_iff {value : Json} :
    readValue dialect (fuel + 1) depth (.char '\x7b' :: doc) = .ok (value, rest) ↔
      value = .obj [] ∧ skipSpace doc = .char '\x7d' :: rest ∨
      (skipSpace doc).head? ≠ some (.char '\x7d') ∧ ∃ deeper fields, depth = deeper + 1 ∧
        value = .obj (Table.ofEntries fields) ∧
        readFields dialect fuel deeper (skipSpace doc) = .ok (fields, rest) := by
  rw [readValue]
  split
  · next tail hspace => simp [hspace, eq_comm]
  · next hspace =>
      rw [or_iff_right fun h => hspace rest h.2, and_iff_right (head?_ne_of_forall hspace)]
      cases depth with
      | zero => simp
      | succ deeper => simp [@map_part_eq_ok_iff _ _ _ _ fun fields => Json.obj (Table.ofEntries fields)]

/-- What starts with none of the characters of the other values is a single word or a number. -/
theorem readValue_atom (hquote : ∀ tail, doc ≠ .char '"' :: tail) (hlist : ∀ tail, doc ≠ .char '[' :: tail)
    (hobject : ∀ tail, doc ≠ .char '\x7b' :: tail) :
    readValue dialect (fuel + 1) depth doc = readAtom dialect doc := by
  rw [readValue]
  · exact hquote
  · exact hlist
  · exact hobject

theorem readItems_eq_ok_iff {items : List Json} :
    readItems dialect (fuel + 1) depth doc = .ok (items, rest) ↔
      ∃ item after, readValue dialect fuel depth doc = .ok (item, after) ∧
        (items = [item] ∧ skipSpace after = .char ']' :: rest ∨
          ∃ others more, items = item :: others ∧ skipSpace after = .char ',' :: more ∧
            readItems dialect fuel depth (skipSpace more) = .ok (others, rest)) := by
  rw [readItems, bind_eq_ok_iff]
  simp only [Prod.exists]
  refine exists_congr fun item => exists_congr fun after => and_congr_right fun _ => ?_
  split
  · next tail hspace => simp [hspace, eq_comm]
  · next tail hspace =>
      simp only [bind_eq_ok_iff, Prod.exists, Except.ok.injEq, Prod.mk.injEq, hspace, List.cons.injEq,
        Symbol.char.injEq, true_and]
      constructor
      · rintro ⟨others, last, hothers, rfl, rfl⟩
        exact Or.inr ⟨others, tail, rfl, rfl, hothers⟩
      · rintro (⟨_, hclosed, _⟩ | ⟨others, _, rfl, rfl, hothers⟩)
        · exact absurd hclosed (by decide)
        · exact ⟨others, rest, hothers, rfl, rfl⟩
  · next hclosed hcomma =>
      simp only [reduceCtorEq, false_iff, not_or, not_and, not_exists]
      exact ⟨fun _ hspace => hclosed rest hspace, fun others more _ hspace => absurd hspace (hcomma more)⟩

theorem readFields_eq_ok_iff {fields : List (Writing × Json)} :
    readFields dialect (fuel + 1) depth doc = .ok (fields, rest) ↔
      ∃ opened name named valued value after, doc = .char '"' :: opened ∧
        readText dialect opened = .ok (name, named) ∧ skipSpace named = .char ':' :: valued ∧
        readValue dialect fuel depth (skipSpace valued) = .ok (value, after) ∧
        (fields = [(.ofSymbols name, value)] ∧ skipSpace after = .char '\x7d' :: rest ∨
          ∃ others more, fields = (.ofSymbols name, value) :: others ∧ skipSpace after = .char ',' :: more ∧
            readFields dialect fuel depth (skipSpace more) = .ok (others, rest)) := by
  by_cases hquote : ∃ opened, doc = .char '"' :: opened
  · obtain ⟨opened, rfl⟩ := hquote
    rw [readFields]
    simp only [bind_eq_ok_iff, Prod.exists, List.cons.injEq, true_and, exists_and_left, exists_eq_left']
    refine exists_congr fun name => exists_congr fun named => and_congr_right fun _ => ?_
    split
    · next valued hcolon =>
        simp only [bind_eq_ok_iff, Prod.exists, hcolon, List.cons.injEq, true_and, exists_eq_left']
        refine exists_congr fun value => exists_congr fun after => and_congr_right fun _ => ?_
        split
        · next tail hspace => simp [hspace, eq_comm]
        · next tail hspace =>
            simp only [bind_eq_ok_iff, Prod.exists, Except.ok.injEq, Prod.mk.injEq, hspace, List.cons.injEq,
              Symbol.char.injEq, true_and]
            constructor
            · rintro ⟨others, last, hothers, rfl, rfl⟩
              exact Or.inr ⟨others, rfl, tail, rfl, hothers⟩
            · rintro (⟨_, hclosed, _⟩ | ⟨others, rfl, _, rfl, hothers⟩)
              · exact absurd hclosed (by decide)
              · exact ⟨others, rest, hothers, rfl, rfl⟩
        · next hclosed hcomma =>
            simp only [reduceCtorEq, false_iff, not_or, not_and, not_exists]
            exact ⟨fun _ hspace => hclosed rest hspace, fun others _ more hspace => absurd hspace (hcomma more)⟩
    · next hcolon =>
        simp only [reduceCtorEq, false_iff, not_exists, not_and]
        exact fun valued hspace => absurd hspace (hcolon valued)
  · have hnot : ∀ opened, doc = .char '"' :: opened → False := fun opened hdoc => hquote ⟨opened, hdoc⟩
    rw [readFields]
    · simp only [reduceCtorEq, false_iff, not_exists, not_and]
      exact fun opened _ _ _ _ _ hdoc => absurd hdoc (hnot opened)
    · exact hnot

/-! ## What is read and what is written -/

/-- A part of a document is read at its start, with fuel. -/
def Reads (dialect : Dialect) (fuel depth : Nat) : Phrase → (doc rest : List Symbol) → Prop
  | .value value, doc, rest => readValue dialect fuel depth doc = .ok (value, rest)
  | .items items, doc, rest => readItems dialect fuel depth doc = .ok (items, rest)
  | .fields fields, doc, rest => readFields dialect fuel depth doc = .ok (fields, rest)

/-- What is read is written by the symbols that it takes. -/
theorem exists_writes_of_reads {phrase : Phrase} (h : Reads dialect fuel depth phrase doc rest) :
    ∃ written, Writes dialect depth phrase written ∧ doc = written ++ rest := by
  induction fuel generalizing depth phrase doc rest with
  | zero => cases phrase <;> simp [Reads, readValue, readItems, readFields] at h
  | succ fuel ih =>
      cases phrase with
      | value value =>
          change readValue dialect (fuel + 1) depth doc = .ok (value, rest) at h
          by_cases hquote : ∃ tail, doc = .char '"' :: tail
          · obtain ⟨tail, rfl⟩ := hquote
            obtain ⟨text, rfl, htext⟩ := readValue_text_eq_ok_iff.1 h
            obtain ⟨quoted, hquoted, hdoc⟩ := readText_eq_ok_iff.1 htext
            exact ⟨quoted, .text hquoted, hdoc⟩
          by_cases hlist : ∃ tail, doc = .char '[' :: tail
          · obtain ⟨tail, rfl⟩ := hlist
            rcases readValue_list_eq_ok_iff.1 h with ⟨rfl, hclosed⟩ | ⟨_, deeper, items, rfl, rfl, hitems⟩
            · obtain ⟨space, hspace, rfl⟩ := exists_eq_append_of_skipSpace hclosed
              exact ⟨_, .emptyList hspace, by simp⟩
            · obtain ⟨written, hwritten, hrest⟩ := ih (show Reads dialect fuel deeper (.items items) _ _ from hitems)
              obtain ⟨space, hspace, rfl⟩ := exists_eq_append_of_skipSpace hrest
              exact ⟨_, .list hspace hwritten, by simp⟩
          by_cases hobject : ∃ tail, doc = .char '\x7b' :: tail
          · obtain ⟨tail, rfl⟩ := hobject
            rcases readValue_object_eq_ok_iff.1 h with ⟨rfl, hclosed⟩ | ⟨_, deeper, fields, rfl, rfl, hfields⟩
            · obtain ⟨space, hspace, rfl⟩ := exists_eq_append_of_skipSpace hclosed
              exact ⟨_, .emptyObject hspace, by simp⟩
            · obtain ⟨written, hwritten, hrest⟩ := ih (show Reads dialect fuel deeper (.fields fields) _ _ from hfields)
              obtain ⟨space, hspace, rfl⟩ := exists_eq_append_of_skipSpace hrest
              exact ⟨_, .object hspace hwritten, by simp⟩
          -- none of the characters is left with which a text, a list or an object starts
          simp only [not_exists] at hquote hlist hobject
          rw [readValue_atom hquote hlist hobject] at h
          obtain ⟨written, hwritten, hdoc⟩ := readAtom_eq h
          exact ⟨written, .atom hwritten, hdoc⟩
      | items items =>
          obtain ⟨item, after, hitem, hafter⟩ := readItems_eq_ok_iff.1 h
          obtain ⟨written, hwritten, rfl⟩ := ih (show Reads dialect fuel depth (.value item) _ _ from hitem)
          rcases hafter with ⟨rfl, hclosed⟩ | ⟨others, more, rfl, hcomma, hothers⟩
          · obtain ⟨space, hspace, rfl⟩ := exists_eq_append_of_skipSpace hclosed
            exact ⟨_, .lastItem hspace hwritten, by simp⟩
          · obtain ⟨written', hwritten', hrest⟩ := ih (show Reads dialect fuel depth (.items others) _ _ from hothers)
            obtain ⟨space, hspace, rfl⟩ := exists_eq_append_of_skipSpace hcomma
            obtain ⟨space', hspace', rfl⟩ := exists_eq_append_of_skipSpace hrest
            exact ⟨_, .nextItem hspace hspace' hwritten hwritten', by simp⟩
      | fields fields =>
          obtain ⟨opened, name, named, valued, value, after, rfl, hname, hcolon, hvalue, hafter⟩ :=
            readFields_eq_ok_iff.1 h
          obtain ⟨quoted, hquoted, hdoc⟩ := readText_eq_ok_iff.1 hname
          obtain ⟨before, hbefore, rfl⟩ := exists_eq_append_of_skipSpace hcolon
          obtain ⟨written, hwritten, hrest⟩ := ih (show Reads dialect fuel depth (.value value) _ _ from hvalue)
          obtain ⟨between, hbetween, rfl⟩ := exists_eq_append_of_skipSpace hrest
          rw [hdoc]
          rcases hafter with ⟨rfl, hclosed⟩ | ⟨others, more, rfl, hcomma, hothers⟩
          · obtain ⟨space, hspace, rfl⟩ := exists_eq_append_of_skipSpace hclosed
            exact ⟨_, .lastField hquoted hbefore hbetween hspace hwritten, by simp⟩
          · obtain ⟨written', hwritten', hrest'⟩ := ih (show Reads dialect fuel depth (.fields others) _ _ from hothers)
            obtain ⟨space, hspace, rfl⟩ := exists_eq_append_of_skipSpace hcomma
            obtain ⟨space', hspace', rfl⟩ := exists_eq_append_of_skipSpace hrest'
            exact ⟨_, .nextField hquoted hbefore hbetween hspace hspace' hwritten hwritten', by simp⟩

/-- A closing bracket or brace or a comma ends a number. -/
theorem ends_space_append (hspace : IsSpace space) (c : Char) (hc : c ∈ [']', '\x7d', ',']) (tail : List Symbol) :
    Ends (space ++ .char c :: tail) := by
  refine ends_append hspace (ends_cons ?_ tail)
  simp only [List.mem_cons, List.not_mem_nil, or_false] at hc
  rcases hc with rfl | rfl | rfl <;> decide

theorem exists_fuel_eq_succ {phrase : Phrase} {written : List Symbol} (h : Writes dialect depth phrase written)
    (hfuel : 2 * written.length ≤ fuel) : ∃ more, fuel = more + 1 := by
  obtain ⟨c, tail, rfl, _⟩ := starts_of_writes h
  rw [List.length_cons] at hfuel
  exact ⟨fuel - 1, by omega⟩

section

variable {written : List Symbol} {deeper : Nat}

theorem readValue_list {items : List Json} (hspace : IsSpace space) (hstart : Starts written)
    (h : readItems dialect fuel deeper (written ++ rest) = .ok (items, rest)) :
    readValue dialect (fuel + 1) (deeper + 1) (.char '[' :: (space ++ written) ++ rest) = .ok (.arr items, rest) := by
  have hskip := skipSpace_append_of_starts hspace (starts_append hstart rest)
  obtain ⟨c, tail, rfl, _, hc, _⟩ := hstart
  rw [List.cons_append, List.append_assoc]
  refine readValue_list_eq_ok_iff.2 (Or.inr ⟨?_, deeper, items, rfl, rfl, hskip.symm ▸ h⟩)
  rw [hskip]
  simpa using hc

theorem readValue_object {fields : List (Writing × Json)} (hspace : IsSpace space) (hstart : Starts written)
    (h : readFields dialect fuel deeper (written ++ rest) = .ok (fields, rest)) :
    readValue dialect (fuel + 1) (deeper + 1) (.char '\x7b' :: (space ++ written) ++ rest)
      = .ok (.obj (Table.ofEntries fields), rest) := by
  have hskip := skipSpace_append_of_starts hspace (starts_append hstart rest)
  obtain ⟨c, tail, rfl, _, _, hc⟩ := hstart
  rw [List.cons_append, List.append_assoc]
  refine readValue_object_eq_ok_iff.2 (Or.inr ⟨?_, deeper, fields, rfl, rfl, hskip.symm ▸ h⟩)
  rw [hskip]
  simpa using hc

theorem readFields_append {name quoted before between after : List Symbol} {value : Json}
    {fields : List (Writing × Json)} (hname : WritesQuoted dialect name quoted) (hbefore : IsSpace before)
    (hbetween : IsSpace between) (hstart : Starts written)
    (hvalue : readValue dialect fuel depth (written ++ after) = .ok (value, after))
    (h : fields = [(.ofSymbols name, value)] ∧ skipSpace after = .char '\x7d' :: rest ∨
      ∃ others more, fields = (.ofSymbols name, value) :: others ∧ skipSpace after = .char ',' :: more ∧
        readFields dialect fuel depth (skipSpace more) = .ok (others, rest)) :
    readFields dialect (fuel + 1) depth (quoted ++ (before ++ .char ':' :: (between ++ (written ++ after))))
      = .ok (fields, rest) := by
  have hskip := skipSpace_append_of_starts hbetween (starts_append hstart after)
  obtain ⟨opened, rfl⟩ : ∃ opened, quoted = .char '"' :: opened := by
    cases hname with
    | intro _ _ => exact ⟨_, rfl⟩
  exact readFields_eq_ok_iff.2 ⟨_, name, _, _, value, after, rfl, readText_eq_ok_iff.2 ⟨_, hname, rfl⟩,
    skipSpace_append hbefore (by decide) _, hskip.symm ▸ hvalue, h⟩

end

/-- What is written is read, up to what follows, given fuel for two steps for each of its symbols. -/
theorem reads_of_writes {phrase : Phrase} {written : List Symbol} (h : Writes dialect depth phrase written)
    (hfuel : 2 * written.length ≤ fuel) (hends : ∀ value, phrase = .value value → Ends rest) :
    Reads dialect fuel depth phrase (written ++ rest) rest := by
  induction h generalizing fuel rest with
  | @atom depth value doc hatom =>
      obtain ⟨fuel, rfl⟩ := exists_fuel_eq_succ (@Writes.atom _ depth _ _ hatom) hfuel
      obtain ⟨c, tail, rfl, _, hc⟩ := exists_start_of_writesAtom hatom
      simp only [List.mem_cons, not_or] at hc
      -- the one place where it matters what follows
      refine (readValue_atom (fun more he => ?_) (fun more he => ?_) fun more he => ?_).trans
        (readAtom_append hatom (hends value rfl))
      · exact hc.1 (Symbol.char.inj (List.cons.inj he).1)
      · exact hc.2.1 (Symbol.char.inj (List.cons.inj he).1)
      · exact hc.2.2.2.1 (Symbol.char.inj (List.cons.inj he).1)
  | @text depth text doc hquoted =>
      obtain ⟨fuel, rfl⟩ := exists_fuel_eq_succ (@Writes.text _ depth _ _ hquoted) hfuel
      obtain ⟨tail, rfl⟩ : ∃ tail, doc = .char '"' :: tail := by
        cases hquoted with
        | intro _ _ => exact ⟨_, rfl⟩
      exact readValue_text_eq_ok_iff.2 ⟨text, rfl, readText_eq_ok_iff.2 ⟨_, hquoted, rfl⟩⟩
  | @emptyList depth space hspace =>
      obtain ⟨fuel, rfl⟩ := exists_fuel_eq_succ (@Writes.emptyList dialect depth _ hspace) hfuel
      rw [List.cons_append, List.append_assoc]
      exact readValue_list_eq_ok_iff.2 (Or.inl ⟨rfl, skipSpace_append hspace (by decide) rest⟩)
  | @list deeper items space doc hspace hitems ih =>
      obtain ⟨fuel, rfl⟩ := exists_fuel_eq_succ (.list hspace hitems) hfuel
      simp only [List.length_cons, List.length_append] at hfuel
      exact readValue_list hspace (starts_of_writes hitems) (@ih rest fuel (by omega) nofun)
  | @emptyObject depth space hspace =>
      obtain ⟨fuel, rfl⟩ := exists_fuel_eq_succ (@Writes.emptyObject dialect depth _ hspace) hfuel
      rw [List.cons_append, List.append_assoc]
      exact readValue_object_eq_ok_iff.2 (Or.inl ⟨rfl, skipSpace_append hspace (by decide) rest⟩)
  | @object deeper fields space doc hspace hfields ih =>
      obtain ⟨fuel, rfl⟩ := exists_fuel_eq_succ (.object hspace hfields) hfuel
      simp only [List.length_cons, List.length_append] at hfuel
      exact readValue_object hspace (starts_of_writes hfields) (@ih rest fuel (by omega) nofun)
  | @lastItem depth item doc space hspace hitem ih =>
      obtain ⟨fuel, rfl⟩ := exists_fuel_eq_succ (.lastItem hspace hitem) hfuel
      simp only [List.length_append, List.length_cons, List.length_nil] at hfuel
      have hread := ih (show 2 * doc.length ≤ fuel by omega) fun _ _ => ends_space_append hspace ']' (by decide) rest
      rw [List.append_assoc, List.append_assoc]
      exact readItems_eq_ok_iff.2 ⟨item, _, hread, Or.inl ⟨rfl, skipSpace_append hspace (by decide) rest⟩⟩
  | @nextItem depth item items doc space space' others hspace hspace' hitem hothers ih ih' =>
      obtain ⟨fuel, rfl⟩ := exists_fuel_eq_succ (.nextItem hspace hspace' hitem hothers) hfuel
      simp only [List.length_append, List.length_cons] at hfuel
      have hread := ih (show 2 * doc.length ≤ fuel by omega) fun _ _ =>
        ends_space_append hspace ',' (by decide) (space' ++ (others ++ rest))
      have hread' := @ih' rest fuel (by omega) nofun
      have hskip := skipSpace_append_of_starts hspace' (starts_append (starts_of_writes hothers) rest)
      rw [List.append_assoc, List.append_assoc, List.cons_append, List.append_assoc]
      exact readItems_eq_ok_iff.2 ⟨item, _, hread,
        Or.inr ⟨items, _, rfl, skipSpace_append hspace (by decide) _, hskip.symm ▸ hread'⟩⟩
  | @lastField depth name quoted doc before between after value hname hbefore hbetween hafter hvalue ih =>
      obtain ⟨fuel, rfl⟩ := exists_fuel_eq_succ (.lastField hname hbefore hbetween hafter hvalue) hfuel
      simp only [List.length_append, List.length_cons, List.length_nil] at hfuel
      have hread := ih (show 2 * doc.length ≤ fuel by omega) fun _ _ =>
        ends_space_append hafter '\x7d' (by decide) rest
      simp only [List.append_assoc, List.cons_append, List.nil_append]
      exact readFields_append hname hbefore hbetween (starts_of_writes hvalue) hread
        (Or.inl ⟨rfl, skipSpace_append hafter (by decide) rest⟩)
  | @nextField depth name quoted doc before between after space others value fields hname hbefore hbetween hafter
      hspace hvalue hothers ih ih' =>
      obtain ⟨fuel, rfl⟩ :=
        exists_fuel_eq_succ (.nextField hname hbefore hbetween hafter hspace hvalue hothers) hfuel
      simp only [List.length_append, List.length_cons] at hfuel
      have hread := ih (show 2 * doc.length ≤ fuel by omega) fun _ _ =>
        ends_space_append hafter ',' (by decide) (space ++ (others ++ rest))
      have hread' := @ih' rest fuel (by omega) nofun
      have hskip := skipSpace_append_of_starts hspace (starts_append (starts_of_writes hothers) rest)
      simp only [List.append_assoc, List.cons_append]
      exact readFields_append hname hbefore hbetween (starts_of_writes hvalue) hread
        (Or.inr ⟨fields, _, rfl, skipSpace_append hafter (by decide) _, hskip.symm ▸ hread'⟩)

/-! ## Documents -/

theorem skipSpace_eq_nil_iff : skipSpace doc = [] ↔ IsSpace doc := List.dropWhile_eq_nil_iff

/-- A document is read for the value that it writes, and nothing else is read. -/
theorem read_eq_ok_iff {value : Json} : read dialect doc = .ok value ↔ IsDocument dialect value doc := by
  unfold read
  constructor
  · intro h
    split at h
    · next found rest hread =>
        split at h
        · next hrest =>
            obtain rfl := Except.ok.inj h
            obtain ⟨written, hwritten, hskip⟩ :=
              exists_writes_of_reads (show Reads dialect _ _ (.value found) _ _ from hread)
            obtain ⟨before, hbefore, hdoc⟩ := exists_eq_append_of_skipSpace hskip
            exact ⟨before, written, rest, hbefore, hwritten, skipSpace_eq_nil_iff.1 hrest, hdoc⟩
        · simp at h
    · simp at h
  · rintro ⟨before, written, after, hbefore, hwritten, hafter, rfl⟩
    -- white space ends a number, and so does the end of the document
    have hends : Ends after := List.append_nil after ▸ ends_append hafter ends_nil
    have hread := @reads_of_writes after dialect (2 * (before ++ (written ++ after)).length + 2) _ _ _ hwritten
      (by simp only [List.length_append]; omega) fun _ _ => hends
    rw [skipSpace_append_of_starts hbefore (starts_append (starts_of_writes hwritten) after)]
    rw [show readValue dialect _ _ _ = _ from hread]
    simp only [skipSpace_eq_nil_iff.2 hafter, if_true]

theorem read?_eq_some_iff {value : Json} {cs : List Char} :
    read? dialect cs = some value ↔ IsDocument dialect value (symbols cs) := by
  rw [← read_eq_ok_iff, read?]
  cases read dialect (symbols cs) <;> simp [Except.toOption]

end PromptCanvas.Json
