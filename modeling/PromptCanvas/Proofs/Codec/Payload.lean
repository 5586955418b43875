import Mathlib.Data.List.Nodup
import PromptCanvas.Proofs.Codec.Base64

set_option autoImplicit false

/-! # What base64 can be read

A payload is a text of letters and equals signs. The letters stand for six bits each, by their places in the
alphabet, and the equals signs close them. What is read are exactly the payloads, and the bytes that are read
have the bits of the letters, up to the last whole byte. -/

namespace PromptCanvas.Base64

open Text

/-! ## Bits -/

/-- The last bits of a number, the highest first. -/
def bits : (width : Nat) → Nat → List Bool
  | 0, _ => []
  | width + 1, n => n.testBit width :: bits width n

/-- The bits of bytes. -/
def dataBits (data : Bytes) : List Bool := data.flatMap fun b => bits 8 b.toNat

theorem length_bits (width n : Nat) : (bits width n).length = width := by
  induction width with
  | zero => rfl
  | succ width ih => rw [bits, List.length_cons, ih]

/-- The bits above a place are those of the number shifted by it. -/
theorem bits_add (width low n : Nat) : bits (width + low) n = bits width (n >>> low) ++ bits low n := by
  induction width with
  | zero => rw [Nat.zero_add]; rfl
  | succ width ih =>
      rw [Nat.add_right_comm, bits, bits, ih, Nat.testBit_shiftRight, Nat.add_comm low]
      rfl

theorem bits_congr {width n m : Nat} (h : ∀ i < width, n.testBit i = m.testBit i) :
    bits width n = bits width m := by
  induction width with
  | zero => rfl
  | succ width ih =>
      rw [bits, bits, h width (Nat.lt_succ_self width), ih fun i hi => h i (Nat.lt_succ_of_lt hi)]

theorem bits_mod (width n : Nat) : bits width (n % 1 <<< width) = bits width n :=
  bits_congr fun i hi => by simp [Nat.one_shiftLeft, Nat.testBit_mod_two_pow, hi]

theorem testBit_eq_of_bits_eq {width n m : Nat} (h : bits width n = bits width m) :
    ∀ i < width, n.testBit i = m.testBit i := by
  induction width with
  | zero => exact fun i hi => absurd hi (Nat.not_lt_zero i)
  | succ width ih =>
      obtain ⟨hfirst, hrest⟩ := List.cons.inj h
      intro i hi
      rcases Nat.lt_succ_iff_lt_or_eq.1 hi with hlt | rfl
      · exact ih hrest i hlt
      · exact hfirst

theorem testBit_eq_false {width n i : Nat} (hn : n < 1 <<< width) (hi : width ≤ i) : n.testBit i = false := by
  rw [Nat.one_shiftLeft] at hn
  exact Nat.testBit_lt_two_pow (Nat.lt_of_lt_of_le hn (Nat.pow_le_pow_right (by decide) hi))

theorem eq_of_bits_eq {width n m : Nat} (hn : n < 1 <<< width) (hm : m < 1 <<< width)
    (h : bits width n = bits width m) : n = m := by
  refine Nat.eq_of_testBit_eq fun i => ?_
  by_cases hi : i < width
  · exact testBit_eq_of_bits_eq h i hi
  · rw [testBit_eq_false hn (Nat.le_of_not_lt hi), testBit_eq_false hm (Nat.le_of_not_lt hi)]

theorem dataBits_cons (b : UInt8) (data : Bytes) : dataBits (b :: data) = bits 8 b.toNat ++ dataBits data :=
  List.flatMap_cons

theorem length_dataBits (data : Bytes) : (dataBits data).length = 8 * data.length := by
  induction data with
  | nil => rfl
  | cons b data ih =>
      rw [dataBits_cons, List.length_append, length_bits, ih, List.length_cons]
      omega

theorem dataBits_injective {data data' : Bytes} (h : dataBits data = dataBits data') : data = data' := by
  induction data generalizing data' with
  | nil =>
      have hlength := congrArg List.length h
      rw [length_dataBits, length_dataBits] at hlength
      cases data' with
      | nil => rfl
      | cons b data' => simp at hlength
  | cons a data ih =>
      cases data' with
      | nil =>
          have hlength := congrArg List.length h
          simp [length_dataBits] at hlength
      | cons b data' =>
          rw [dataBits_cons, dataBits_cons] at h
          obtain ⟨hfirst, hrest⟩ := List.append_inj h (by rw [length_bits, length_bits])
          have hbyte : a = b := UInt8.toNat_inj.1 (eq_of_bits_eq a.toNat_lt b.toNat_lt hfirst)
          rw [hbyte, ih hrest]

/-! ## Bits of sextets -/

theorem bits_byteAt (n shift : Nat) : bits 8 (byteAt n shift).toNat = bits 8 (n >>> shift) := by
  rw [byteAt, UInt8.toNat_ofNat', ← bits_mod 8 (n >>> shift), Nat.one_shiftLeft]

/-- A number that stands before others has the higher bits. -/
theorem bits_join {low n : Nat} (h : n < 1 <<< low) (width high : Nat) :
    bits (width + low) (high <<< low + n) = bits width high ++ bits low n := by
  have hshift : high <<< low = high * 1 <<< low := by rw [Nat.shiftLeft_eq, Nat.one_shiftLeft]
  have hlow : (high <<< low + n) % 1 <<< low = n := by rw [hshift, Nat.mul_add_mod_of_lt h]
  have hhigh : (high <<< low + n) >>> low = high := by
    rw [Nat.shiftRight_eq_div_pow, ← Nat.one_shiftLeft, hshift, Nat.add_comm,
      Nat.add_mul_div_right _ _ (Nat.zero_lt_of_lt h), Nat.div_eq_of_lt h, Nat.zero_add]
  rw [bits_add, hhigh, ← bits_mod low, hlow]

/-- The number of a group of sextets. -/
def group (a b c d : Nat) : Nat := a <<< 18 + b <<< 12 + c <<< 6 + d

theorem bits_group (a : Nat) {b c d : Nat} (hb : b < 64) (hc : c < 64) (hd : d < 64) :
    bits 24 (group a b c d) = [a, b, c, d].flatMap (bits 6) := by
  have hgroup : group a b c d = a <<< 18 + (b <<< 12 + (c <<< 6 + d)) := by
    unfold group
    omega
  have hsix : d < 1 <<< 6 := hd
  have htwelve : c <<< 6 + d < 1 <<< 12 := by omega
  have heighteen : b <<< 12 + (c <<< 6 + d) < 1 <<< 18 := by omega
  rw [hgroup, bits_join heighteen 6, bits_join htwelve 6, bits_join hsix 6]
  simp

/-- The bytes of a group have the bits of its sextets. -/
theorem dataBits_group (a : Nat) {b c d : Nat} (hb : b < 64) (hc : c < 64) (hd : d < 64) :
    dataBits [byteAt (group a b c d) 16, byteAt (group a b c d) 8, byteAt (group a b c d) 0]
      = [a, b, c, d].flatMap (bits 6) := by
  rw [← bits_group a hb hc hd, bits_add 8 16, bits_add 8 8]
  simp [dataBits, bits_byteAt]

/-- Where bits that start with those of bytes start with other bits, these start with the bits of the bytes. -/
theorem dataBits_eq_take {data more : Bytes} {front later : List Bool} {n : Nat}
    (h : dataBits (data ++ more) = front ++ later) (hn : 8 * data.length = n) (hle : n ≤ front.length) :
    dataBits data = front.take n := by
  have hbits : dataBits (data ++ more) = dataBits data ++ dataBits more := List.flatMap_append
  rw [h] at hbits
  calc dataBits data = (dataBits data ++ dataBits more).take n := by rw [← hn, ← length_dataBits, List.take_left]
    _ = front.take n := by rw [← hbits, List.take_append_of_le_length hle]

/-- The bytes of sextets have the bits of the sextets, up to the last whole byte. -/
theorem dataBits_ofSextets {sextets : List Nat} (h : ∀ n ∈ sextets, n < 64) :
    dataBits (ofSextets sextets) = (sextets.flatMap (bits 6)).take (6 * sextets.length / 8 * 8) := by
  -- a group that is not full has the bits of one that is filled up with zeros
  induction sextets using ofSextets.induct with
  | case1 a b c d rest ih =>
      obtain ⟨_, hb, hc, hd, hrest⟩ : a < 64 ∧ b < 64 ∧ c < 64 ∧ d < 64 ∧ ∀ n ∈ rest, n < 64 := by
        simpa using h
      have hcount : 6 * (a :: b :: c :: d :: rest).length / 8 * 8
          = ([a, b, c, d].flatMap (bits 6)).length + 6 * rest.length / 8 * 8 := by
        simp only [List.length_cons, List.length_flatMap, length_bits, List.map_cons, List.map_nil, List.sum_cons,
          List.sum_nil]
        omega
      have hsplit : ([a, b, c, d] ++ rest).flatMap (bits 6) = [a, b, c, d].flatMap (bits 6) ++ rest.flatMap (bits 6) :=
        List.flatMap_append
      have hbytes : dataBits
            ([byteAt (group a b c d) 16, byteAt (group a b c d) 8, byteAt (group a b c d) 0] ++ ofSextets rest)
          = [a, b, c, d].flatMap (bits 6) ++ dataBits (ofSextets rest) := by
        rw [← dataBits_group a hb hc hd]
        exact List.flatMap_append
      rw [hcount]
      show dataBits _ = (([a, b, c, d] ++ rest).flatMap (bits 6)).take _
      rw [hsplit, List.take_length_add_append, ← ih hrest]
      exact hbytes
  | case2 a b c =>
      obtain ⟨_, hb, hc⟩ : a < 64 ∧ b < 64 ∧ c < 64 := by simpa using h
      have hbytes : ofSextets [a, b, c] = [byteAt (group a b c 0) 16, byteAt (group a b c 0) 8] := by
        simp [ofSextets, group]
      have hfull : dataBits (ofSextets [a, b, c] ++ [byteAt (group a b c 0) 0])
          = [a, b, c].flatMap (bits 6) ++ bits 6 0 := by
        rw [hbytes]
        exact (dataBits_group a hb hc (Nat.zero_lt_succ 63)).trans (by simp)
      exact dataBits_eq_take hfull (by simp [hbytes]) (by simp [length_bits])
  | case3 a b =>
      obtain ⟨_, hb⟩ : a < 64 ∧ b < 64 := by simpa using h
      have hbytes : ofSextets [a, b] = [byteAt (group a b 0 0) 16] := by simp [ofSextets, group]
      have hfull : dataBits (ofSextets [a, b] ++ [byteAt (group a b 0 0) 8, byteAt (group a b 0 0) 0])
          = [a, b].flatMap (bits 6) ++ (bits 6 0 ++ bits 6 0) := by
        rw [hbytes]
        exact (dataBits_group a hb (Nat.zero_lt_succ 63) (Nat.zero_lt_succ 63)).trans (by simp)
      exact dataBits_eq_take hfull (by simp [hbytes]) (by simp [length_bits])
  | case4 sextets hfour hthree htwo =>
      rcases sextets with _ | ⟨a, _ | ⟨b, _ | ⟨c, _ | ⟨d, rest⟩⟩⟩⟩
      -- at most one sextet, which makes no byte
      · rfl
      · simp [ofSextets, dataBits]
      · exact absurd rfl (htwo a b)
      · exact absurd rfl (hthree a b c)
      · exact absurd rfl (hfour a b c d rest)

/-! ## Letters -/

/-- The letters, in the order of the numbers that they stand for. -/
def alphabet : List Char := "ABCDEFGHIJKLMNOPQRSTUVWXYZabcdefghijklmnopqrstuvwxyz0123456789+/".toList

theorem alphabet_eq : alphabet = (List.range 64).map letter := by decide

theorem length_alphabet : alphabet.length = 64 := by
  rw [alphabet_eq, List.length_map, List.length_range]

theorem toNat_le_of_le {c d : Char} (h : c ≤ d) : c.toNat ≤ d.toNat :=
  UInt32.le_iff_toNat_le.1 (Char.le_def.1 h)

theorem ofNat_offset {first c : Char} (h : first ≤ c) :
    Char.ofNat (first.toNat + (c.toNat - first.toNat)) = c := by
  rw [Nat.add_sub_cancel' (toNat_le_of_le h), Char.ofNat_toNat]

theorem letter_of_sextet? {c : Char} {n : Nat} (h : sextet? c = some n) : n < 64 ∧ letter n = c := by
  unfold sextet? at h
  split at h
  · next hupper =>
      have hlast : c.toNat ≤ 90 := toNat_le_of_le hupper.2
      have hcode : 'A'.toNat = 65 := rfl
      obtain rfl := Option.some.inj h
      refine ⟨by omega, ?_⟩
      rw [letter, if_pos (by omega), ofNat_offset hupper.1]
  · split at h
    · next hlower =>
        have hlast : c.toNat ≤ 122 := toNat_le_of_le hlower.2
        have hcode : 'a'.toNat = 97 := rfl
        obtain rfl := Option.some.inj h
        refine ⟨by omega, ?_⟩
        rw [letter, if_neg (by omega), if_pos (by omega), Nat.add_sub_cancel, ofNat_offset hlower.1]
    · split at h
      · next hdigit =>
          have hlast : c.toNat ≤ 57 := toNat_le_of_le hdigit.2
          have hcode : '0'.toNat = 48 := rfl
          obtain rfl := Option.some.inj h
          refine ⟨by omega, ?_⟩
          rw [letter, if_neg (by omega), if_neg (by omega), if_pos (by omega), Nat.add_sub_cancel,
            ofNat_offset hdigit.1]
      · split at h
        · next hplus =>
            obtain rfl := Option.some.inj h
            exact ⟨by decide, hplus ▸ rfl⟩
        · split at h
          · next hslash =>
              obtain rfl := Option.some.inj h
              exact ⟨by decide, hslash ▸ rfl⟩
          · cases h

theorem sextet?_eq_some_iff {c : Char} {n : Nat} : sextet? c = some n ↔ n < 64 ∧ letter n = c := by
  refine ⟨letter_of_sextet?, ?_⟩
  rintro ⟨hn, rfl⟩
  exact sextet?_letter hn

theorem mem_alphabet_iff {c : Char} : c ∈ alphabet ↔ ∃ n, n < 64 ∧ letter n = c := by
  rw [alphabet_eq, List.mem_map]
  simp only [List.mem_range]

theorem isLetter_iff {c : Char} : isLetter c = true ↔ c ∈ alphabet := by
  rw [isLetter, Option.isSome_iff_exists, mem_alphabet_iff]
  simp only [sextet?_eq_some_iff]

theorem nodup_alphabet : alphabet.Nodup := by
  rw [alphabet_eq]
  refine List.Nodup.map_on (fun n hn m hm heq => ?_) List.nodup_range
  have hsame := congrArg sextet? heq
  rw [sextet?_letter (List.mem_range.1 hn), sextet?_letter (List.mem_range.1 hm)] at hsame
  exact Option.some.inj hsame

theorem idxOf_letter {n : Nat} (h : n < 64) : alphabet.idxOf (letter n) = n := by
  have hlength : n < alphabet.length := by rwa [length_alphabet]
  have hget : alphabet[n] = letter n := by simp only [alphabet_eq, List.getElem_map, List.getElem_range]
  rw [← hget, nodup_alphabet.idxOf_getElem]

theorem sextet?_of_mem {c : Char} (h : c ∈ alphabet) : sextet? c = some (alphabet.idxOf c) := by
  obtain ⟨n, hn, rfl⟩ := mem_alphabet_iff.1 h
  rw [sextet?_letter hn, idxOf_letter hn]

theorem filterMap_sextet? {letters : List Char} (h : ∀ c ∈ letters, c ∈ alphabet) :
    letters.filterMap sextet? = letters.map alphabet.idxOf := by
  induction letters with
  | nil => rfl
  | cons c letters ih =>
      obtain ⟨hc, hletters⟩ := List.forall_mem_cons.1 h
      rw [List.filterMap_cons_some (sextet?_of_mem hc), ih hletters, List.map_cons]

/-! ## Payloads -/

/-- How many equals signs may follow how many letters. -/
inductive Closing : (letters pads : Nat) → Prop where
  | empty : Closing 0 0
  | whole {groups : Nat} (hpos : 0 < groups) (pads : Nat) : Closing (4 * groups) pads
  | two (groups : Nat) : Closing (4 * groups + 2) 2
  | three (groups : Nat) : Closing (4 * groups + 3) 1

/-- A text in base64: letters, and the equals signs that close them. -/
structure Payload where
  letters : List Char
  pads : Nat
  alphabetic : ∀ c ∈ letters, c ∈ alphabet
  closing : Closing letters.length pads

namespace Payload

/-- The text of a payload. -/
def chars (payload : Payload) : List Char := payload.letters ++ List.replicate payload.pads '='

/-- The text of a payload as a string. -/
def text (payload : Payload) : String := String.ofList payload.chars

/-- The bits of the letters of a payload. -/
def letterBits (payload : Payload) : List Bool := payload.letters.flatMap fun c => bits 6 (alphabet.idxOf c)

/-- A payload writes bytes that have the bits of its letters, up to the last whole byte. -/
def Writes (payload : Payload) (data : Bytes) : Prop :=
  dataBits data = payload.letterBits.take (payload.letterBits.length / 8 * 8)

end Payload

theorem closes_iff {letters pads : Nat} : closes letters pads = true ↔ Closing letters pads := by
  constructor
  · intro h
    unfold closes at h
    split at h
    · next hmod =>
        obtain ⟨groups, rfl⟩ : ∃ groups, letters = 4 * groups := ⟨letters / 4, by omega⟩
        rcases Nat.eq_zero_or_pos groups with rfl | hpos
        · obtain rfl : pads = 0 := by simpa using h
          exact .empty
        · exact .whole hpos pads
    · next hmod =>
        obtain ⟨groups, rfl⟩ : ∃ groups, letters = 4 * groups + 2 := ⟨letters / 4, by omega⟩
        obtain rfl := of_decide_eq_true h
        exact .two groups
    · next hmod =>
        obtain ⟨groups, rfl⟩ : ∃ groups, letters = 4 * groups + 3 := ⟨letters / 4, by omega⟩
        obtain rfl := of_decide_eq_true h
        exact .three groups
    · simp at h
  · intro h
    cases h with
    | empty => rfl
    | @whole groups hpos =>
        have hmod : 4 * groups % 4 = 0 := by omega
        have hne : 4 * groups ≠ 0 := by omega
        simp [closes, hmod, hne]
    | two groups =>
        have hmod : (4 * groups + 2) % 4 = 2 := by omega
        simp [closes, hmod]
    | three groups =>
        have hmod : (4 * groups + 3) % 4 = 3 := by omega
        simp [closes, hmod]

namespace Payload

variable (payload : Payload)

@[simp]
theorem toList_text : payload.text.toList = payload.chars := String.toList_ofList

/-- The bytes that are read from a payload. -/
def data : Bytes := ofSextets (payload.letters.map alphabet.idxOf)

theorem decode?_chars : decode? payload.chars = some payload.data := by
  have hletters : ∀ c ∈ payload.letters, isLetter c = true := fun c hc => isLetter_iff.2 (payload.alphabetic c hc)
  rw [chars, decode?_append hletters (closes_iff.2 payload.closing), filterMap_sextet? payload.alphabetic, data]

theorem writes_iff {data : Bytes} : payload.Writes data ↔ data = payload.data := by
  have hsextets : ∀ n ∈ payload.letters.map alphabet.idxOf, n < 64 := by
    intro n hn
    obtain ⟨c, hc, rfl⟩ := List.mem_map.1 hn
    rw [← length_alphabet]
    exact List.idxOf_lt_length_iff.2 (payload.alphabetic c hc)
  have hbits : payload.letterBits = (payload.letters.map alphabet.idxOf).flatMap (bits 6) := by
    rw [letterBits, List.flatMap_map]
  have hlength : payload.letterBits.length = 6 * (payload.letters.map alphabet.idxOf).length := by
    simp [letterBits, List.length_flatMap, length_bits, Nat.mul_comm]
  have hdata := dataBits_ofSextets hsextets
  rw [← hbits, ← hlength] at hdata
  constructor
  · exact fun hwrites => dataBits_injective (hwrites.trans hdata.symm)
  · rintro rfl
    exact hdata

end Payload

/-- What is read are the payloads, and the bytes that they write. -/
theorem decode?_eq_some_iff {cs : List Char} {data : Bytes} :
    decode? cs = some data ↔ ∃ payload : Payload, cs = payload.chars ∧ payload.Writes data := by
  constructor
  · intro h
    obtain ⟨hpads, hcloses⟩ : (∀ c ∈ cs.dropWhile isLetter, c = '=') ∧
        closes (cs.takeWhile isLetter).length (cs.dropWhile isLetter).length = true := by
      unfold decode? at h
      simp only at h
      split at h
      · next hread => exact ⟨fun c hc => of_decide_eq_true (List.all_eq_true.1 hread.1 c hc), hread.2⟩
      · simp at h
    let payload : Payload :=
      { letters := cs.takeWhile isLetter
        pads := (cs.dropWhile isLetter).length
        alphabetic := fun c hc => isLetter_iff.1 (List.mem_takeWhile_imp hc)
        closing := closes_iff.1 hcloses }
    have hchars : cs = payload.chars := by
      show cs = cs.takeWhile isLetter ++ List.replicate (cs.dropWhile isLetter).length '='
      rw [← List.eq_replicate_of_mem hpads, List.takeWhile_append_dropWhile]
    refine ⟨payload, hchars, payload.writes_iff.2 ?_⟩
    rw [hchars, payload.decode?_chars] at h
    exact (Option.some.inj h).symm
  · rintro ⟨payload, rfl, hwrites⟩
    rw [payload.decode?_chars, payload.writes_iff.1 hwrites]

end PromptCanvas.Base64
