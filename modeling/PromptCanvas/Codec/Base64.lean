import PromptCanvas.Codec.Hex

set_option autoImplicit false

/-! # Base64

Three bytes become four characters of a 64-letter alphabet. `Base64.decode?` is strict about the
alphabet and about padding: two characters over a whole number of groups need exactly two equals signs,
three need exactly one, and a whole number of groups, at least one, may be followed by any number of
them. The low bits that a last group leaves over are not looked at. -/

namespace PromptCanvas.Base64

/-- The character for six bits. -/
def letter (n : Nat) : Char :=
  if n < 26 then Char.ofNat ('A'.toNat + n)
  else if n < 52 then Char.ofNat ('a'.toNat + (n - 26))
  else if n < 62 then Char.ofNat ('0'.toNat + (n - 52))
  else if n = 62 then '+'
  else '/'

/-- The six bits of a character. -/
def sextet? (c : Char) : Option Nat :=
  if 'A' ≤ c ∧ c ≤ 'Z' then some (c.toNat - 'A'.toNat)
  else if 'a' ≤ c ∧ c ≤ 'z' then some (c.toNat - 'a'.toNat + 26)
  else if '0' ≤ c ∧ c ≤ '9' then some (c.toNat - '0'.toNat + 52)
  else if c = '+' then some 62
  else if c = '/' then some 63
  else none

/-- A character of the alphabet. -/
def isLetter (c : Char) : Bool := (sextet? c).isSome

/-- The character for the sextet of `n` that ends `shift` bits from its end. -/
def letterAt (n shift : Nat) : Char := letter ((n >>> shift) % 64)

/-- The written form of a sequence of bytes. -/
def encode : Bytes → List Char
  | [] => []
  | [a] =>
      let n := a.toNat <<< 16
      [letterAt n 18, letterAt n 12, '=', '=']
  | [a, b] =>
      let n := a.toNat <<< 16 + b.toNat <<< 8
      [letterAt n 18, letterAt n 12, letterAt n 6, '=']
  | a :: b :: c :: rest =>
      let n := a.toNat <<< 16 + b.toNat <<< 8 + c.toNat
      letterAt n 18 :: letterAt n 12 :: letterAt n 6 :: letterAt n 0 :: encode rest

/-- The byte of `n` that ends `shift` bits from its end. -/
def byteAt (n shift : Nat) : UInt8 := UInt8.ofNat (n >>> shift)

/-- The bytes in a sequence of sextets, unused low bits dropped. -/
def ofSextets : List Nat → Bytes
  | a :: b :: c :: d :: rest =>
      let n := a <<< 18 + b <<< 12 + c <<< 6 + d
      byteAt n 16 :: byteAt n 8 :: byteAt n 0 :: ofSextets rest
  | [a, b, c] =>
      let n := a <<< 18 + b <<< 12 + c <<< 6
      [byteAt n 16, byteAt n 8]
  | [a, b] => [byteAt (a <<< 18 + b <<< 12) 16]
  | _ => []

/-- Whether `count` letters may be followed by `pads` equals signs. -/
def closes (count pads : Nat) : Bool :=
  match count % 4 with
  | 0 => count ≠ 0 || pads = 0
  | 2 => pads = 2
  | 3 => pads = 1
  | _ => false

/-- The bytes that a text writes: letters, then equals signs that close them. -/
def decode? (cs : List Char) : Option Bytes :=
  let letters := cs.takeWhile isLetter
  let pads := cs.dropWhile isLetter
  if pads.all (· = '=') ∧ closes letters.length pads.length then
    some (ofSextets (letters.filterMap sextet?))
  else none

end PromptCanvas.Base64
