import PromptCanvas.Codec.Hex
import PromptCanvas.Text.Symbols

set_option autoImplicit false

/-! # Encodings of characters

Bytes do not say how they encode characters. A document starts with a character of ASCII, however, so
zeros among its first bytes show the width of the units and their order: `Encoding.detect` tells by
them, and `Encoding.decode?` reads the symbols. -/

namespace PromptCanvas

open Text

/-- How bytes encode characters. -/
inductive Encoding where
  | utf8
  | utf16 (bigEndian : Bool)
  | utf32 (bigEndian : Bool)
deriving DecidableEq, Repr

namespace Encoding

/-- The encoding that the zeros among the first bytes of a document show. -/
def detect : Bytes → Encoding
  | [a, b] => if a = 0 then utf16 true else if b = 0 then utf16 false else utf8
  | a :: b :: c :: d :: _ =>
      if a = 0 then (if b = 0 then utf32 true else utf16 true)
      else if b = 0 then (if c = 0 ∧ d = 0 then utf32 false else utf16 false)
      else utf8
  | _ => utf8

/-- The number that two digits write, the first of which is the greater one if `bigEndian` holds. -/
def joined (base : Nat) (bigEndian : Bool) (a b : Nat) : Nat :=
  if bigEndian then a * base + b else b * base + a

/-- The units that pairs of smaller units make up; none where one is left over. -/
def paired? (base : Nat) (bigEndian : Bool) : List Nat → Option (List Nat)
  | [] => some []
  | [_] => none
  | a :: b :: rest => (paired? base bigEndian rest).map (joined base bigEndian a b :: ·)

/-- The symbols of units of 16 bits: two units that make up a pair are one. -/
def symbolsOfUnits : List Nat → List Symbol
  | [] => []
  | [unit] => [.ofPoint unit]
  | unit :: second :: rest =>
      if isFirstHalf unit && isSecondHalf second then .ofPair unit second :: symbolsOfUnits rest
      else .ofPoint unit :: symbolsOfUnits (second :: rest)

/-- The greatest code point. -/
def maxPoint : Nat := 0x10FFFF

/-- The symbols of bytes. A byte order mark in front of bytes of UTF-8 is passed over. -/
def decode? (encoding : Encoding) (data : Bytes) : Option (List Symbol) :=
  let numbers := data.map UInt8.toNat
  match encoding with
  | utf8 =>
      (String.fromUTF8? (ByteArray.mk data.toArray)).map fun s =>
        symbols (if s.toList.head? = some '\ufeff' then s.toList.tail else s.toList)
  | utf16 bigEndian => (paired? 0x100 bigEndian numbers).map symbolsOfUnits
  | utf32 bigEndian => do
      let units ← paired? 0x100 bigEndian numbers
      let points ← paired? 0x10000 bigEndian units
      if points.all (· ≤ maxPoint) then some (points.map Symbol.ofPoint) else none

end Encoding

end PromptCanvas
