/-
# What is written is read back

A writer appends the same bytes whatever it holds, and a buffer that has these
bytes anywhere reads them back there, whatever stands before and after them
(`Buffer.hasAt_middle`). A varint comes back as the integer modulo 2^64, or cut
down to 32 signed bits. A tag comes back as its number and its wire type, groups
included, if the number leaves three bits of the word free.

Key theorems: `Buffer.hasAt_middle`, `appended_readBack`.
-/

import WireSchema.Proofs.Record

namespace WireSchema

open Varint

theorem Buffer.hasAt_middle (before v after : Bytes) :
    Buffer.HasAt ⟨before ++ v ++ after⟩ before.length v := by
  have hdrop : (before ++ v ++ after).drop before.length = v ++ after := by
    rw [List.append_assoc, List.drop_left]
  exact hasAt_of_drop (by simp [Buffer.size]) hdrop

/-- **Varints and tags are read back where they stand.** Every integer has bytes
that a writer appends for it, as many as its size says. Between any other bytes
they are read as the integer modulo 2^64, and as its residue between -2^31 and
2^31, which is the integer itself if it lies there. The bytes of a tag, with a
number from 1 on and below 2^61, are read as this number and wire type, and
there are as many as the size of the number says. -/
theorem appended_readBack (before after : Bytes) :
    (∀ v : Int, ∃ e : Bytes,
      (∀ w : Writer, (w.appendVarint v).bytes = w.bytes ++ e) ∧
      e.length = Varint.size v ∧
      Buffer.readVarint ⟨before ++ e ++ after⟩ before.length =
        .ok ⟨(v % 2 ^ 64).toNat, e.length⟩ ∧
      Buffer.readInt32 ⟨before ++ e ++ after⟩ before.length =
        .ok ⟨Int.bmod v (2 ^ 32), e.length⟩ ∧
      (-2 ^ 31 ≤ v → v < 2 ^ 31 → Int.bmod v (2 ^ 32) = v)) ∧
    ∀ (number : Nat) (wire : WireType), 1 ≤ number → number < 2 ^ 61 → ∃ e : Bytes,
      (∀ w : Writer, (w.appendTag number wire.code).bytes = w.bytes ++ e) ∧
      e.length = tagSize number ∧
      Buffer.readTag ⟨before ++ e ++ after⟩ before.length =
        .ok ⟨number, wire, tagSize number⟩ := by
  refine ⟨fun v => ?_, fun number wire hpos hlt => ?_⟩
  · have hat := Buffer.hasAt_middle before (Varint.encode v) after
    have hread := Buffer.readVarint_of_hasAt hat (denotes_encode v)
    have hint : Buffer.readInt32 ⟨before ++ Varint.encode v ++ after⟩ before.length =
        .ok ⟨Int.bmod v (2 ^ 32), (Varint.encode v).length⟩ := by
      rw [Buffer.readInt32, hread, ← toInt32_word_eq_bmod]
    exact ⟨Varint.encode v, fun _ => rfl, length_encode v, hread, hint, bmod_of_int32⟩
  · have hat := Buffer.hasAt_middle before (Varint.encode (tagWord number wire.code)) after
    have hlen : (Varint.encode (tagWord number wire.code)).length = tagSize number := by
      rw [length_encode, size_tagWord]
    have hread := Buffer.readTag_of_denotes hat hpos (denotes_encode_tagWord hlt wire)
    rw [hlen] at hread
    exact ⟨_, fun _ => rfl, hlen, hread⟩

/-- A negative number takes ten bytes, and so does the largest field number. -/
theorem appended_readBack_longest :
    (∃ e : Bytes, e.length = 10 ∧
      Buffer.readVarint ⟨[0x80, 0xFF] ++ e ++ [0x7F]⟩ 2 = .ok ⟨2 ^ 64 - 2, 10⟩ ∧
      Buffer.readInt32 ⟨[0x80, 0xFF] ++ e ++ [0x7F]⟩ 2 = .ok ⟨-2, 10⟩) ∧
    1 ≤ 2 ^ 61 - 1 ∧ 2 ^ 61 - 1 < 2 ^ 61 ∧
    ∃ e : Bytes, Buffer.readTag ⟨[0x80, 0xFF] ++ e ++ [0x7F]⟩ 2 =
      .ok ⟨2 ^ 61 - 1, .endGroup, 10⟩ := by
  obtain ⟨hvarint, htag⟩ := appended_readBack [0x80, 0xFF] [0x7F]
  have hsize : Varint.size (-2) = 10 := by decide +kernel
  have htagSize : tagSize ((2 ^ 61 - 1 : Nat) : Int) = 10 := by decide +kernel
  refine ⟨?_, by decide, by decide, ?_⟩
  · obtain ⟨e, -, hlen, hread, hint, hsame⟩ := hvarint (-2)
    rw [hlen, hsize] at hread hint
    rw [hsame (by decide) (by decide)] at hint
    exact ⟨e, hlen.trans hsize, hread, hint⟩
  · obtain ⟨e, -, -, hread⟩ := htag (2 ^ 61 - 1) .endGroup (by decide) (by decide)
    rw [htagSize] at hread
    exact ⟨e, hread⟩

end WireSchema
