import PromptCanvas.Text.Numeral

set_option autoImplicit false

/-! # Bytes in hexadecimal -/

namespace PromptCanvas

/-- A sequence of bytes. -/
abbrev Bytes := List UInt8

namespace Hex

/-- Two lower-case digits a byte. -/
def encode (data : Bytes) : String :=
  String.ofList (data.flatMap fun b => Text.hexDigits 2 b.toNat)

/-- The bytes written by pairs of digits. -/
def decodeChars? : List Char → Option Bytes
  | [] => some []
  | [_] => none
  | a :: b :: rest => do
      let high ← Text.hexValue? a
      let low ← Text.hexValue? b
      let more ← decodeChars? rest
      some (UInt8.ofNat (16 * high + low) :: more)

/-- The bytes that a string writes. -/
def decode? (s : String) : Option Bytes := decodeChars? s.toList

end Hex

end PromptCanvas
