/-
# The bytes of a varint, one by one

Which bytes of a buffer are a varint can be read off their high bits: the last
byte is the first one that has none (`Buffer.GroupsAt`), and the seven low bits
of all of them make up the number (`Buffer.groupSum`). At an offset this is the
same as bytes that stand there and spell a number (`groupsAt_of_hasAt`,
`GroupsAt.exists_grouped`), so the reader succeeds exactly on such bytes, if
there are at most ten.

The reader asks for the end of the buffer before it counts to ten. Therefore it
reports a varint that is too long only if there is an eleventh byte, and
otherwise input that ends too early.

Key definitions: `Buffer.byteAt`, `Buffer.GroupsAt`, `Buffer.groupSum`.
Key theorems: `Buffer.groupsAt_of_hasAt`, `Buffer.GroupsAt.exists_grouped`,
`readVarint_ok_iff_groupsAt`.
-/

import WireSchema.Proofs.Record
import Mathlib.Algebra.BigOperators.Intervals
import Mathlib.Algebra.BigOperators.Ring.Finset

namespace WireSchema

open Varint

/-! ### Groups at an offset -/

namespace Buffer

variable {b : Buffer} {offset k n : Nat} {raw : Bytes}

/-- The byte at a position, as a number; zero behind the end. -/
def byteAt (b : Buffer) (i : Nat) : Nat := (b.data.getD i 0).toNat

/-- The `k` bytes from `offset` on are the groups of one number: there is at
least one, all lie in the buffer, and the last is the only one without its high
bit. -/
structure GroupsAt (b : Buffer) (offset k : Nat) : Prop where
  one_le : 1 ≤ k
  inside : offset + k ≤ b.size
  more : ∀ i, i < k - 1 → 0x80 ≤ b.byteAt (offset + i)
  last : b.byteAt (offset + (k - 1)) < 0x80

instance (b : Buffer) (offset k : Nat) : Decidable (b.GroupsAt offset k) :=
  decidable_of_iff (1 ≤ k ∧ offset + k ≤ b.size ∧
      (∀ i, i < k - 1 → 0x80 ≤ b.byteAt (offset + i)) ∧ b.byteAt (offset + (k - 1)) < 0x80)
    ⟨fun ⟨h₁, h₂, h₃, h₄⟩ => ⟨h₁, h₂, h₃, h₄⟩, fun ⟨h₁, h₂, h₃, h₄⟩ => ⟨h₁, h₂, h₃, h₄⟩⟩

/-- The number that the seven low bits of `k` bytes make up, low group first. -/
def groupSum (b : Buffer) (offset k : Nat) : Nat :=
  ∑ i ∈ Finset.range k, (b.byteAt (offset + i) &&& 0x7F) * 2 ^ (7 * i)

theorem groupSum_succ (b : Buffer) (offset k : Nat) :
    b.groupSum offset (k + 1) = b.byteAt offset % 128 + 128 * b.groupSum (offset + 1) k := by
  have hlow : b.byteAt offset &&& 0x7F = b.byteAt offset % 128 :=
    Nat.and_two_pow_sub_one_eq_mod _ 7
  have hshift : ∀ i, (b.byteAt (offset + (i + 1)) &&& 0x7F) * 2 ^ (7 * (i + 1)) =
      128 * ((b.byteAt (offset + 1 + i) &&& 0x7F) * 2 ^ (7 * i)) := by
    intro i
    rw [show offset + (i + 1) = offset + 1 + i by omega]
    ring
  calc b.groupSum offset (k + 1)
      = ∑ i ∈ Finset.range k, (b.byteAt (offset + (i + 1)) &&& 0x7F) * 2 ^ (7 * (i + 1)) +
          (b.byteAt offset &&& 0x7F) * 2 ^ 0 := Finset.sum_range_succ' _ _
    _ = 128 * b.groupSum (offset + 1) k + b.byteAt offset % 128 := by
      rw [Finset.sum_congr rfl fun i _ => hshift i, ← Finset.mul_sum, ← groupSum, hlow,
        Nat.pow_zero, Nat.mul_one]
    _ = b.byteAt offset % 128 + 128 * b.groupSum (offset + 1) k := Nat.add_comm _ _

theorem groupsAt_one : b.GroupsAt offset 1 ↔ offset < b.size ∧ b.byteAt offset < 0x80 := by
  constructor
  · rintro ⟨-, hin, -, hlast⟩
    exact ⟨hin, hlast⟩
  · rintro ⟨hin, hlast⟩
    exact ⟨Nat.le_refl 1, hin, fun i hi => by omega, hlast⟩

/-- A byte with its high bit goes before the groups that follow it. -/
theorem groupsAt_succ (hk : 1 ≤ k) :
    b.GroupsAt offset (k + 1) ↔ 0x80 ≤ b.byteAt offset ∧ b.GroupsAt (offset + 1) k := by
  constructor
  · rintro ⟨-, hin, hmore, hlast⟩
    refine ⟨hmore 0 (by omega), hk, by omega, fun i hi => ?_, ?_⟩
    · have := hmore (i + 1) (by omega)
      rwa [show offset + (i + 1) = offset + 1 + i by omega] at this
    · rwa [show offset + (k + 1 - 1) = offset + 1 + (k - 1) by omega] at hlast
  · rintro ⟨hfirst, -, hin, hmore, hlast⟩
    refine ⟨by omega, by omega, fun i hi => ?_, ?_⟩
    · cases i with
      | zero => exact hfirst
      | succ i =>
        have := hmore i (by omega)
        rwa [show offset + 1 + i = offset + (i + 1) by omega] at this
    · rwa [show offset + 1 + (k - 1) = offset + (k + 1 - 1) by omega] at hlast

theorem HasAt.byteAt_eq {c : UInt8} (h : b.HasAt offset (c :: raw)) :
    b.byteAt offset = c.toNat := by
  obtain ⟨-, rest, hr⟩ := h
  have hget : b.data[offset]? = some c := by
    rw [← List.head?_drop, ← hr, List.cons_append, List.head?_cons]
  rw [byteAt, List.getD_eq_getElem?_getD, hget, Option.getD_some]

/-- Bytes that spell a number are its groups, wherever they stand. -/
theorem groupsAt_of_hasAt (hg : Grouped raw n) :
    ∀ {offset : Nat}, b.HasAt offset raw →
      b.GroupsAt offset raw.length ∧ n = b.groupSum offset raw.length := by
  induction hg with
  | @last c hc =>
    intro offset hat
    have hbyte := hat.byteAt_eq
    have hin := hat.le
    rw [List.length_singleton] at hin ⊢
    refine ⟨groupsAt_one.mpr ⟨hin, by omega⟩, ?_⟩
    rw [groupSum_succ, hbyte, groupSum, Finset.sum_range_zero]
    omega
  | @more c rest n hc hr ih =>
    intro offset hat
    have hbyte := hat.byteAt_eq
    have hlt := c.toNat_lt
    obtain ⟨hgroups, hn⟩ := ih (HasAt.right (v := [c]) hat)
    rw [List.length_singleton] at hgroups hn
    rw [List.length_cons]
    refine ⟨(groupsAt_succ hr.length_pos).mpr ⟨by omega, hgroups⟩, ?_⟩
    rw [groupSum_succ, hbyte, ← hn]
    omega

/-- Groups in a buffer are bytes that spell a number. -/
theorem GroupsAt.exists_grouped : ∀ {k offset : Nat}, b.GroupsAt offset k →
    ∃ raw n, raw.length = k ∧ b.HasAt offset raw ∧ Grouped raw n
  | 0, _, h => absurd h.one_le (by omega)
  | 1, offset, h => by
    obtain ⟨hin, hlast⟩ := groupsAt_one.mp h
    obtain ⟨raw, hlen, hat⟩ := hasAt_of_le (n := 1) hin
    obtain ⟨c, rfl⟩ := List.length_eq_one_iff.mp hlen
    exact ⟨[c], c.toNat, rfl, hat, .last (hat.byteAt_eq ▸ hlast)⟩
  | k + 2, offset, h => by
    have hin : offset + 1 ≤ b.size := by have := h.inside; omega
    obtain ⟨hfirst, hrest⟩ := (groupsAt_succ (by omega)).mp h
    obtain ⟨first, hlen, hat⟩ := hasAt_of_le hin
    obtain ⟨c, rfl⟩ := List.length_eq_one_iff.mp hlen
    obtain ⟨raw, n, hraw, hat', hg⟩ := hrest.exists_grouped
    exact ⟨c :: raw, _, by rw [List.length_cons, hraw], hat.append hat',
      .more (hat.byteAt_eq ▸ hfirst) hg⟩

/-- One to ten groups are a varint of their sum. -/
theorem GroupsAt.exists_denotes (h : b.GroupsAt offset k) (hk : k ≤ maxSize) :
    ∃ raw, raw.length = k ∧ b.HasAt offset raw ∧
      Denotes raw (b.groupSum offset k % wordLimit) := by
  obtain ⟨raw, n, rfl, hat, hg⟩ := h.exists_grouped
  obtain ⟨-, rfl⟩ := groupsAt_of_hasAt hg hat
  exact ⟨raw, rfl, hat, hk, _, hg, rfl⟩

/-- Groups are read as their sum, whatever comes after them. -/
theorem readVarint_of_groupsAt (h : b.GroupsAt offset k) (hk : k ≤ maxSize) :
    b.readVarint offset = .ok ⟨b.groupSum offset k % wordLimit, k⟩ := by
  obtain ⟨raw, rfl, hat, hn⟩ := h.exists_denotes hk
  exact readVarint_of_hasAt hat hn

/-- Only groups are read. -/
theorem groupsAt_of_readVarint {r : Sized Nat} (h : b.readVarint offset = .ok r) :
    r.size ≤ maxSize ∧ b.GroupsAt offset r.size := by
  obtain ⟨raw, hat, ⟨hle, m, hg, -⟩, hlen⟩ := hasAt_of_readVarint h
  rw [← hlen]
  exact ⟨hle, (groupsAt_of_hasAt hg hat).1⟩

end Buffer

/-- **Exactly the varints are read.** At any offset a varint is read if and only
if some number of bytes from 1 to 10 are groups there. Then as many bytes are
taken, and the value is the sum of the groups modulo 2^64. Its own varint is not
longer, nor is what any writer appends for an integer of the same residue. If
there are no such bytes, the error stands at the offset, and its text says
whether there was an eleventh byte. -/
theorem readVarint_ok_iff_groupsAt (b : Buffer) (offset : Nat) :
    ((∃ r, b.readVarint offset = .ok r) ↔ ∃ k, k ≤ 10 ∧ b.GroupsAt offset k) ∧
    (∀ k, k ≤ 10 → b.GroupsAt offset k →
      b.readVarint offset = .ok ⟨b.groupSum offset k % 2 ^ 64, k⟩ ∧
      Varint.size (b.groupSum offset k % 2 ^ 64 : Nat) ≤ k ∧
      ∀ (w : Writer) (v : Int), v % 2 ^ 64 = (b.groupSum offset k : Int) % 2 ^ 64 →
        (w.appendVarint v).length ≤ w.length + k) ∧
    ((¬ ∃ k, k ≤ 10 ∧ b.GroupsAt offset k) →
      ∃ e, b.readVarint offset = .error e ∧ e.offset = offset ∧
        e.message = (if b.size - offset ≤ 10 then "truncated varint"
          else "varint longer than 10 bytes") ++ " (at offset " ++ toString offset ++ ")") := by
  refine ⟨⟨?_, ?_⟩, fun k hk hg => ?_, fun hno => ?_⟩
  · rintro ⟨r, hr⟩
    exact ⟨r.size, Buffer.groupsAt_of_readVarint hr⟩
  · rintro ⟨k, hk, hg⟩
    exact ⟨_, Buffer.readVarint_of_groupsAt hg hk⟩
  · obtain ⟨raw, rfl, -, hn⟩ := hg.exists_denotes hk
    have hvalue : word (b.groupSum offset raw.length % 2 ^ 64 : Nat) =
        b.groupSum offset raw.length % 2 ^ 64 :=
      word_natCast (Nat.mod_lt _ (by decide))
    refine ⟨Buffer.readVarint_of_groupsAt hg hk, hn.size_le hvalue, fun w v hv => ?_⟩
    have hword : word v = b.groupSum offset raw.length % 2 ^ 64 := by
      rw [word, show (wordLimit : Int) = 2 ^ 64 from rfl, hv]
      exact Int.toNat_natCast _
    have hsize := hn.size_le hword
    rw [Writer.length, Writer.bytes_appendVarint, List.length_append, length_encode]
    exact Nat.add_le_add_left hsize _
  · cases h : b.readVarint offset with
    | ok r => exact absurd ⟨r.size, Buffer.groupsAt_of_readVarint h⟩ hno
    | error e =>
      refine ⟨e, rfl, ?_⟩
      rw [Buffer.error_of_readVarint h]
      refine ⟨rfl, ?_⟩
      by_cases hle : b.size - offset ≤ 10
      · rw [if_pos hle, if_pos (show b.size - offset ≤ maxSize from hle)]
        rfl
      · rw [if_neg hle, if_neg (show ¬ b.size - offset ≤ maxSize from hle)]
        rfl

/-- The number 150 in one byte more than it needs, then eleven bytes that all
have their high bit: from the first of these on a varint is too long, and from
the second on it is cut off. -/
theorem readVarint_ok_iff_groupsAt_overlong :
    ∃ b : Buffer, b = ⟨[0x96, 0x81, 0x00] ++ List.replicate 11 0x80⟩ ∧
      b.GroupsAt 0 3 ∧ b.readVarint 0 = .ok ⟨150, 3⟩ ∧ Varint.size 150 ≤ 3 ∧
      (∀ w : Writer, (w.appendVarint 150).length ≤ w.length + 3) ∧
      (¬ ∃ k, k ≤ 10 ∧ b.GroupsAt 3 k) ∧
      (∃ e, b.readVarint 3 = .error e ∧ e.offset = 3 ∧
        e.message = "varint longer than 10 bytes (at offset 3)") ∧
      (¬ ∃ k, k ≤ 10 ∧ b.GroupsAt 4 k) ∧
      ∃ e, b.readVarint 4 = .error e ∧ e.offset = 4 ∧
        e.message = "truncated varint (at offset 4)" := by
  have hlaw := readVarint_ok_iff_groupsAt ⟨[0x96, 0x81, 0x00] ++ List.replicate 11 0x80⟩
  obtain ⟨hread, hsize, hshort⟩ := (hlaw 0).2.1 3 (by decide) (by decide +kernel)
  have hlong := (hlaw 3).2.2 (by decide +kernel)
  have hcut := (hlaw 4).2.2 (by decide +kernel)
  exact ⟨_, rfl, by decide +kernel, hread, hsize, fun w => hshort w 150 (by decide +kernel),
    by decide +kernel, hlong, by decide +kernel, hcut⟩

end WireSchema
