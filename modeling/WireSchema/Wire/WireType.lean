/-
# Wire types

The three low bits of a tag say how the bytes after it are laid out. Six of
the eight codes have a meaning; the other two never occur in a well-formed
message.

Key definitions: `WireType`, `WireType.code`, `WireType.ofCode?`.
Key theorems: `WireType.ofCode?_code`, `WireType.code_of_ofCode?`.
-/

namespace WireSchema

/-- A message on the wire is a list of bytes. -/
abbrev Bytes := List UInt8

/-- How the payload of a record is laid out. -/
inductive WireType where
  | varint
  | fixed64
  | bytes
  | startGroup
  | endGroup
  | fixed32
deriving DecidableEq, Repr

namespace WireType

/-- The number that stands for the wire type in a tag. -/
def code : WireType → Nat
  | varint => 0
  | fixed64 => 1
  | bytes => 2
  | startGroup => 3
  | endGroup => 4
  | fixed32 => 5

/-- The wire type of a code; codes from 6 up have none. -/
def ofCode? : Nat → Option WireType
  | 0 => some varint
  | 1 => some fixed64
  | 2 => some bytes
  | 3 => some startGroup
  | 4 => some endGroup
  | 5 => some fixed32
  | _ => none

/-- The name of the wire type in error texts. -/
def label : WireType → String
  | varint => "VARINT"
  | fixed64 => "FIXED64"
  | bytes => "BYTES"
  | startGroup => "START_GROUP"
  | endGroup => "END_GROUP"
  | fixed32 => "FIXED32"

@[simp] theorem ofCode?_code (w : WireType) : ofCode? w.code = some w := by
  cases w <;> rfl

theorem code_of_ofCode? {n : Nat} {w : WireType} (h : ofCode? n = some w) : w.code = n := by
  unfold ofCode? at h
  split at h <;> simp_all [code] <;> subst h <;> rfl

theorem code_lt (w : WireType) : w.code < 8 := by
  cases w <;> decide

end WireType
end WireSchema
