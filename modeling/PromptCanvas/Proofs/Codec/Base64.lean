import PromptCanvas.Codec.Base64
import PromptCanvas.Proofs.Text.Trim

set_option autoImplicit false

/-! # Bytes in base64 and back

Encoded bytes are letters for their sextets, followed by as many equals signs as the last group lacks
letters. The letters give the sextets back, the sextets give the bytes back, and the equals signs close the
letters; so what was encoded is decoded. -/

namespace PromptCanvas.Base64

open Text

/-! ## Letters -/

theorem sextet?_letter {n : Nat} (h : n < 64) : sextet? (letter n) = some n := by
  have hall : ∀ m : Fin 64, sextet? (letter m) = some m.val := by decide
  exact hall ⟨n, h⟩

theorem isLetter_letter {n : Nat} (h : n < 64) : isLetter (letter n) = true := by
  rw [isLetter, sextet?_letter h, Option.isSome_some]

theorem isLetter_pad : isLetter '=' = false := by decide

theorem filterMap_sextet?_letters {sextets : List Nat} (h : ∀ n ∈ sextets, n < 64) :
    (sextets.map letter).filterMap sextet? = sextets := by
  induction sextets with
  | nil => rfl
  | cons n rest ih =>
      obtain ⟨hn, hrest⟩ := List.forall_mem_cons.1 h
      rw [List.map_cons, List.filterMap_cons_some (sextet?_letter hn), ih hrest]

/-! ## Encoded bytes -/

/-- The sextets of bytes, the last one filled up with zeros. -/
def sextets : Bytes → List Nat
  | [] => []
  | [a] =>
      let n := a.toNat <<< 16
      [(n >>> 18) % 64, (n >>> 12) % 64]
  | [a, b] =>
      let n := a.toNat <<< 16 + b.toNat <<< 8
      [(n >>> 18) % 64, (n >>> 12) % 64, (n >>> 6) % 64]
  | a :: b :: c :: rest =>
      let n := a.toNat <<< 16 + b.toNat <<< 8 + c.toNat
      (n >>> 18) % 64 :: (n >>> 12) % 64 :: (n >>> 6) % 64 :: (n >>> 0) % 64 :: sextets rest

/-- The number of equals signs behind the letters of bytes. -/
def padCount : Bytes → Nat
  | [] => 0
  | [_] => 2
  | [_, _] => 1
  | _ :: _ :: _ :: rest => padCount rest

theorem encode_eq (data : Bytes) :
    encode data = (sextets data).map letter ++ List.replicate (padCount data) '=' := by
  induction data using sextets.induct with
  | case1 | case2 | case3 => rfl
  | case4 a b c rest ih =>
      simp only [encode, ih, sextets, padCount, letterAt, List.map_cons, List.cons_append]

theorem lt_of_mem_sextets (data : Bytes) : ∀ n ∈ sextets data, n < 64 := by
  induction data using sextets.induct with
  | case1 => simp [sextets]
  | case2 | case3 => simp [sextets, Nat.mod_lt]
  | case4 a b c rest ih => simpa [sextets, Nat.mod_lt] using ih

theorem closes_add_four {count pads : Nat} (h : closes count pads = true) :
    closes (count + 4) pads = true := by
  unfold closes at h ⊢
  rw [Nat.add_mod_right]
  split at h <;> simp_all

theorem closes_sextets (data : Bytes) : closes (sextets data).length (padCount data) = true := by
  induction data using sextets.induct with
  | case1 | case2 | case3 => rfl
  | case4 a b c rest ih => exact closes_add_four ih

theorem byteAt_eq {a : UInt8} {n shift : Nat} (h : (n >>> shift) % 256 = a.toNat) :
    byteAt n shift = a := by
  rw [byteAt, ← UInt8.toNat_inj, UInt8.toNat_ofNat']
  exact h

theorem ofSextets_sextets (data : Bytes) : ofSextets (sextets data) = data := by
  -- the sextets of a group make up its number again, in which the bytes stand
  induction data using sextets.induct with
  | case1 => rfl
  | case2 a =>
      have ha := a.toNat_lt
      simp only [sextets, ofSextets]
      rw [byteAt_eq (a := a) (by omega)]
  | case3 a b =>
      have ha := a.toNat_lt
      have hb := b.toNat_lt
      simp only [sextets, ofSextets]
      rw [byteAt_eq (a := a) (by omega), byteAt_eq (a := b) (by omega)]
  | case4 a b c rest ih =>
      have ha := a.toNat_lt
      have hb := b.toNat_lt
      have hc := c.toNat_lt
      simp only [sextets, ofSextets, ih]
      rw [byteAt_eq (a := a) (by omega), byteAt_eq (a := b) (by omega), byteAt_eq (a := c) (by omega)]

/-! ## Decoding -/

/-- Letters and equals signs that close them are decoded. -/
theorem decode?_append {letters : List Char} {pads : Nat} (hletters : ∀ c ∈ letters, isLetter c = true)
    (hcloses : closes letters.length pads = true) :
    decode? (letters ++ List.replicate pads '=') = some (ofSextets (letters.filterMap sextet?)) := by
  have hpads : ∀ c ∈ (List.replicate pads '=').head?, isLetter c = false := by
    intro c hc
    obtain rfl := List.eq_of_mem_replicate (List.mem_of_mem_head? hc)
    exact isLetter_pad
  unfold decode?
  simp only [takeWhile_append_eq hletters hpads, dropWhile_append_eq hletters hpads]
  rw [List.length_replicate, if_pos ⟨by simp, hcloses⟩]

theorem decode?_encode (data : Bytes) : decode? (encode data) = some data := by
  have hsextets := lt_of_mem_sextets data
  have hletters : ∀ c ∈ (sextets data).map letter, isLetter c = true := by
    intro c hc
    obtain ⟨n, hn, rfl⟩ := List.mem_map.1 hc
    exact isLetter_letter (hsextets n hn)
  have hcloses : closes ((sextets data).map letter).length (padCount data) = true := by
    rw [List.length_map]
    exact closes_sextets data
  rw [encode_eq, decode?_append hletters hcloses, filterMap_sextet?_letters hsextets, ofSextets_sextets]

/-- Nothing but letters and equals signs is decoded. -/
theorem decode?_eq_none_of_mem {c : Char} {cs : List Char} (hmem : c ∈ cs) (hletter : isLetter c = false)
    (hpad : c ≠ '=') : decode? cs = none := by
  unfold decode?
  refine if_neg fun ⟨hpads, _⟩ => ?_
  rw [← List.takeWhile_append_dropWhile (p := isLetter) (l := cs), List.mem_append] at hmem
  rcases hmem with htaken | hdropped
  · exact Bool.noConfusion (hletter.symm.trans (List.mem_takeWhile_imp htaken))
  · exact hpad (of_decide_eq_true (List.all_eq_true.1 hpads c hdropped))

end PromptCanvas.Base64
