/-
# Text from bytes

UTF-8 with a lenient reader: bytes that belong to no character are left out.

Key definitions: `utf8Char?`, `decodeUtf8`, `encodeUtf8`.
-/

import WireSchema.Wire.WireType

namespace WireSchema

/-- The bytes of a text. -/
def encodeUtf8 (text : String) : Bytes := text.toUTF8.toList

/-- The value of a byte that continues a character, if it lies in the range. -/
def tailValue? (low high : Nat) (b : UInt8) : Option Nat :=
  if low ≤ b.toNat ∧ b.toNat ≤ high then some (b.toNat - 0x80) else none

/-- The value of the bytes that continue a character, the first of which lies
in the given range and the others anywhere from 80 to BF. -/
def tailValues? : Nat → Nat → Nat → Nat → Bytes → Option Nat
  | 0, _, _, value, _ => some value
  | _ + 1, _, _, _, [] => none
  | count + 1, low, high, value, b :: rest =>
    match tailValue? low high b with
    | some v => tailValues? count 0x80 0xBF (64 * value + v) rest
    | none => none

/-- The character at the start of the bytes, and how many bytes it takes. -/
def utf8Char? : Bytes → Option (Char × Nat)
  | [] => none
  | a :: rest =>
    let n := a.toNat
    if n < 0x80 then some (Char.ofNat n, 1)
    else if 0xC2 ≤ n ∧ n ≤ 0xDF then
      (tailValues? 1 0x80 0xBF (n - 0xC0) rest).map fun v => (Char.ofNat v, 2)
    else if 0xE0 ≤ n ∧ n ≤ 0xEF then
      let low := if n = 0xE0 then 0xA0 else 0x80
      let high := if n = 0xED then 0x9F else 0xBF
      (tailValues? 2 low high (n - 0xE0) rest).map fun v => (Char.ofNat v, 3)
    else if 0xF0 ≤ n ∧ n ≤ 0xF4 then
      let low := if n = 0xF0 then 0x90 else 0x80
      let high := if n = 0xF4 then 0x8F else 0xBF
      (tailValues? 3 low high (n - 0xF0) rest).map fun v => (Char.ofNat v, 4)
    else none

/-- The characters of the bytes after the first `skip`. -/
def utf8Chars : Nat → Bytes → List Char
  | _, [] => []
  | skip + 1, _ :: rest => utf8Chars skip rest
  | 0, b :: rest =>
    match utf8Char? (b :: rest) with
    | some (c, size) => c :: utf8Chars (size - 1) rest
    | none => utf8Chars 0 rest

/-- The text of bytes, without the bytes that belong to no character. -/
def decodeUtf8 (bytes : Bytes) : String := String.ofList (utf8Chars 0 bytes)

end WireSchema
