/-
# Variable-length integers

A varint writes a number in groups of seven bits, low group first, and marks
every group but the last by the high bit. Any integer has a varint: it is
first reduced modulo 2^64, so a negative number takes its two's complement
and ten bytes.

The reader takes at most ten bytes. It tells input that ends inside a number
(`truncated`) from a number whose tenth byte still announces another one
(`tooLong`), and it reduces what it read modulo 2^64.

Key definitions: `Varint.word`, `Varint.encode`, `Varint.size`,
`Varint.read`, `Varint.toInt32`.
-/

import WireSchema.Wire.WireType

namespace WireSchema
namespace Varint

/-- The number of values a 64-bit word can take: 2^64. -/
def wordLimit : Nat := 0x10000000000000000

/-- The number of values that 32 bits can take: 2^32. -/
def halfLimit : Nat := 0x100000000

/-- The 64-bit word that stands for an integer: its residue modulo 2^64. -/
def word (v : Int) : Nat := (v % (wordLimit : Int)).toNat

/-- The groups of a natural number, low group first. -/
def groups (n : Nat) : Bytes :=
  if n < 128 then [UInt8.ofNat n]
  else UInt8.ofNat (n % 128 + 128) :: groups (n / 128)
termination_by n
decreasing_by omega

/-- The number of groups that a natural number needs. -/
def groupCount (n : Nat) : Nat :=
  if n < 128 then 1 else 1 + groupCount (n / 128)
termination_by n
decreasing_by omega

/-- The varint of an integer. -/
def encode (v : Int) : Bytes := groups (word v)

/-- The length of an integer's varint, found without writing it. -/
def size (v : Int) : Nat := groupCount (word v)

/-- No varint is longer than this many bytes. -/
def maxSize : Nat := 10

/-- Why bytes do not start with a varint. -/
inductive Fault where
  | truncated
  | tooLong
deriving DecidableEq, Repr

/-- The groups at the start of `bytes`, at most `budget` of them, as a number
and the count of bytes it took. Input that ends too early is reported before
a number that is too long. -/
def readGroups : Nat → Bytes → Except Fault (Nat × Nat)
  | _, [] => .error .truncated
  | 0, _ :: _ => .error .tooLong
  | budget + 1, b :: rest =>
    if b.toNat < 128 then .ok (b.toNat, 1)
    else
      match readGroups budget rest with
      | .ok (high, count) => .ok (b.toNat - 128 + 128 * high, count + 1)
      | .error fault => .error fault

/-- The varint at the start of `bytes`: its value as a 64-bit word, and its
length. -/
def read (bytes : Bytes) : Except Fault (Nat × Nat) :=
  match readGroups maxSize bytes with
  | .ok (n, count) => .ok (n % wordLimit, count)
  | .error fault => .error fault

/-- The low 32 bits of a word as a signed number. -/
def toInt32 (n : Nat) : Int :=
  if 2 * (n % halfLimit) < halfLimit then ((n % halfLimit : Nat) : Int)
  else ((n % halfLimit : Nat) : Int) - (halfLimit : Int)

theorem length_groups (n : Nat) : (groups n).length = groupCount n := by
  induction n using Nat.strongRecOn with
  | ind n ih =>
    rw [groups, groupCount]
    split
    · rfl
    · rw [List.length_cons, ih (n / 128) (by omega), Nat.add_comm]

/-- The size of a varint is the length of its encoding. -/
theorem length_encode (v : Int) : (encode v).length = size v := length_groups _

/-- A varint that was read has at least one byte, and no more than there were. -/
theorem readGroups_bounds : ∀ {budget : Nat} {bytes : Bytes} {n count : Nat},
    readGroups budget bytes = .ok (n, count) → 0 < count ∧ count ≤ bytes.length
  | _, [], _, _, h => by simp [readGroups] at h
  | 0, _ :: _, _, _, h => by simp [readGroups] at h
  | budget + 1, b :: rest, n, count, h => by
    rw [readGroups] at h
    split at h
    · cases h; simp
    · split at h
      next high c hr =>
        cases h
        have := readGroups_bounds hr
        simp only [List.length_cons]; omega
      next => cases h

theorem read_bounds {bytes : Bytes} {n count : Nat} (h : read bytes = .ok (n, count)) :
    0 < count ∧ count ≤ bytes.length := by
  rw [read] at h
  split at h
  next hr => cases h; exact readGroups_bounds hr
  next => cases h

end Varint
end WireSchema
