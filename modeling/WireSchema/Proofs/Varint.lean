/-
# Varints as they stand in a message

Bytes spell a number in groups if every byte but the last has its high bit
set (`Varint.Grouped`); a varint is such a run of at most ten bytes, taken
modulo 2^64 (`Varint.Denotes`). These two say what a varint is without any
reader. The reader finds a varint at the start of bytes exactly if one stands
there (`read_of_denotes`, `denotes_of_read`), whatever comes after it, and
what the writer writes is one (`denotes_encode`). Bytes of `k` groups spell a
number below 128^k, and reducing it modulo 2^64 does not make it larger, so no
varint of a number is shorter than the one that is written
(`Denotes.size_le`).

A tag is the varint of a field number above three bits of wire type. The wire
type never changes its length (`size_tagWord`), and below 2^61 the number
comes back (`tagWord_of_number`).

Key definitions: `Varint.Grouped`, `Varint.Denotes`, `Varint.Spelled`.
Key theorems: `Varint.read_of_denotes`, `Varint.denotes_of_read`,
`Varint.fault_of_read`, `Varint.denotes_encode`, `Varint.Denotes.size_le`,
`Varint.size_of_neg`, `toInt32_word_eq_bmod`, `size_tagWord`,
`tagWord_of_number`, `denotes_encode_tagWord`.
-/

import WireSchema.Wire.Writer
import Mathlib.Algebra.Order.Ring.Nat
import Mathlib.Tactic.Ring

namespace WireSchema
namespace Varint

/-- Bytes that spell a number in groups of seven bits, low group first: every
byte but the last has its high bit set. -/
inductive Grouped : Bytes → Nat → Prop
  | last {b : UInt8} (hb : b.toNat < 128) : Grouped [b] b.toNat
  | more {b : UInt8} {rest : Bytes} {n : Nat} (hb : 128 ≤ b.toNat) (hr : Grouped rest n) :
      Grouped (b :: rest) (b.toNat - 128 + 128 * n)

/-- Bytes that are one varint for the word `n`: one to ten groups, taken
modulo 2^64. -/
def Denotes (raw : Bytes) (n : Nat) : Prop :=
  raw.length ≤ maxSize ∧ ∃ m, Grouped raw m ∧ n = m % wordLimit

/-- A varint together with the bytes that spell it. -/
structure Spelled where
  raw : Bytes
  value : Nat
  denotes : Denotes raw value

/-- The value cut down to 32 signed bits: its residue between -2^31 and 2^31. -/
def Spelled.int32 (v : Spelled) : Int := Int.bmod v.value halfLimit

/-- A byte below 128 is a varint on its own. -/
theorem Denotes.single {b : UInt8} (hb : b.toNat < 128) : Denotes [b] b.toNat := by
  refine ⟨show 1 ≤ maxSize by decide, b.toNat, .last hb, ?_⟩
  unfold wordLimit
  omega

theorem Grouped.length_pos {raw : Bytes} {n : Nat} (h : Grouped raw n) : 0 < raw.length := by
  cases h <;> simp

theorem Denotes.length_pos {raw : Bytes} {n : Nat} (h : Denotes raw n) : 0 < raw.length := by
  obtain ⟨-, m, hm, -⟩ := h
  exact hm.length_pos

/-! ### The reader -/

theorem readGroups_of_grouped {raw : Bytes} {n : Nat} (h : Grouped raw n) (rest : Bytes) :
    ∀ budget, raw.length ≤ budget → readGroups budget (raw ++ rest) = .ok (n, raw.length) := by
  induction h with
  | last hb =>
    intro budget hl
    obtain ⟨budget, rfl⟩ : ∃ k, budget = k + 1 := ⟨budget - 1, by simp at hl; omega⟩
    simp [readGroups, hb]
  | more hb hr ih =>
    intro budget hl
    obtain ⟨budget, rfl⟩ : ∃ k, budget = k + 1 := ⟨budget - 1, by simp at hl; omega⟩
    have hrest := ih budget (by simp at hl; omega)
    simp [readGroups, hrest, Nat.not_lt.mpr hb]

theorem grouped_of_readGroups : ∀ {budget : Nat} {bytes : Bytes} {n count : Nat},
    readGroups budget bytes = .ok (n, count) →
      ∃ raw rest, bytes = raw ++ rest ∧ Grouped raw n ∧ raw.length = count ∧ count ≤ budget
  | _, [], _, _, h => by simp [readGroups] at h
  | 0, _ :: _, _, _, h => by simp [readGroups] at h
  | budget + 1, b :: rest, n, count, h => by
    rw [readGroups] at h
    split at h
    next hb =>
      cases h
      exact ⟨[b], rest, rfl, .last hb, rfl, by omega⟩
    next hb =>
      split at h
      next high c hr =>
        cases h
        obtain ⟨raw, rest', rfl, hg, rfl, hc⟩ := grouped_of_readGroups hr
        exact ⟨b :: raw, rest', rfl, .more (by omega) hg, rfl, by omega⟩
      next => cases h

/-- A varint is read whatever comes after it. -/
theorem read_of_denotes {raw : Bytes} {n : Nat} (h : Denotes raw n) (rest : Bytes) :
    read (raw ++ rest) = .ok (n, raw.length) := by
  obtain ⟨hl, m, hm, rfl⟩ := h
  rw [read, readGroups_of_grouped hm rest maxSize hl]

/-- Nothing but a varint is read. -/
theorem denotes_of_read {bytes : Bytes} {n count : Nat} (h : read bytes = .ok (n, count)) :
    ∃ raw rest, bytes = raw ++ rest ∧ Denotes raw n ∧ raw.length = count := by
  rw [read] at h
  split at h
  next m c hr =>
    cases h
    obtain ⟨raw, rest, hb, hg, hc, hle⟩ := grouped_of_readGroups hr
    exact ⟨raw, rest, hb, ⟨by omega, m, hg, rfl⟩, hc⟩
  next => cases h

/-- No varint is a proper beginning of another one. -/
theorem Denotes.append_inj {raw raw' rest rest' : Bytes} {n n' : Nat} (h : Denotes raw n)
    (h' : Denotes raw' n') (he : raw ++ rest = raw' ++ rest') :
    raw = raw' ∧ n = n' ∧ rest = rest' := by
  have hr := read_of_denotes h rest
  rw [he, read_of_denotes h' rest', Except.ok.injEq, Prod.mk.injEq] at hr
  obtain ⟨hraw, hrest⟩ := List.append_inj he hr.2.symm
  exact ⟨hraw, hr.1.symm, hrest⟩

/-- Bytes that fit in the budget end too early; others are too many. -/
theorem fault_of_readGroups : ∀ {budget : Nat} {bytes : Bytes} {fault : Fault},
    readGroups budget bytes = .error fault →
      fault = if bytes.length ≤ budget then .truncated else .tooLong
  | budget, [], _, h => by
    rw [readGroups] at h
    cases h
    rw [List.length_nil, if_pos (Nat.zero_le budget)]
  | 0, b :: rest, _, h => by
    rw [readGroups] at h
    cases h
    rw [if_neg (by simp)]
  | budget + 1, b :: rest, _, h => by
    rw [readGroups] at h
    split at h
    next => cases h
    next =>
      split at h
      next => cases h
      next hr =>
        cases h
        rw [fault_of_readGroups hr]
        simp only [List.length_cons, Nat.add_le_add_iff_right]

theorem fault_of_read {bytes : Bytes} {fault : Fault} (h : read bytes = .error fault) :
    fault = if bytes.length ≤ maxSize then .truncated else .tooLong := by
  rw [read] at h
  split at h
  next => cases h
  next hr => cases h; exact fault_of_readGroups hr

/-! ### The writer -/

theorem grouped_groups (n : Nat) : Grouped (groups n) n := by
  induction n using Nat.strongRecOn with
  | ind n ih =>
    rw [groups]
    split
    next hn =>
      have hb : (UInt8.ofNat n).toNat = n := by rw [UInt8.toNat_ofNat']; omega
      have := Grouped.last (b := UInt8.ofNat n) (by omega)
      rwa [hb] at this
    next hn =>
      have hb : (UInt8.ofNat (n % 128 + 128)).toNat = n % 128 + 128 := by
        rw [UInt8.toNat_ofNat']; omega
      have := Grouped.more (b := UInt8.ofNat (n % 128 + 128)) (by omega) (ih (n / 128) (by omega))
      rwa [hb, show n % 128 + 128 - 128 + 128 * (n / 128) = n by omega] at this

/-- Each group makes room for seven bits. -/
theorem Grouped.lt {raw : Bytes} {n : Nat} (h : Grouped raw n) : n < 128 ^ raw.length := by
  induction h with
  | last hb => simpa using hb
  | @more b rest n hb hr ih =>
    have hbyte := b.toNat_lt
    calc b.toNat - 128 + 128 * n
        < 128 * (n + 1) := by omega
      _ ≤ 128 * 128 ^ rest.length := Nat.mul_le_mul_left _ ih
      _ = 128 ^ (b :: rest).length := by rw [List.length_cons, Nat.pow_succ']

theorem groupCount_le : ∀ {k n : Nat}, n < 128 ^ (k + 1) → groupCount n ≤ k + 1
  | 0, n, h => by rw [groupCount, if_pos (by omega)]
  | k + 1, n, h => by
    rw [groupCount]
    split
    · omega
    · have hd : n / 128 < 128 ^ (k + 1) := by
        rw [Nat.div_lt_iff_lt_mul (by decide)]
        calc n < 128 ^ (k + 1 + 1) := h
          _ = 128 ^ (k + 1) * 128 := by ring
      have := groupCount_le hd
      omega

theorem lt_groupCount : ∀ {k n : Nat}, 128 ^ k ≤ n → k < groupCount n
  | 0, n, _ => by rw [groupCount]; split <;> omega
  | k + 1, n, h => by
    have hk : 0 < 128 ^ k := Nat.pow_pos (by decide)
    have hn : 128 ^ k * 128 ≤ n := by
      calc 128 ^ k * 128 = 128 ^ (k + 1) := by ring
        _ ≤ n := h
    rw [groupCount, if_neg (by omega)]
    have := lt_groupCount (k := k) (n := n / 128) ((Nat.le_div_iff_mul_le (by decide)).mpr hn)
    omega

theorem word_lt (v : Int) : word v < wordLimit := by
  unfold word wordLimit
  omega

theorem word_natCast {n : Nat} (h : n < wordLimit) : word n = n := by
  unfold word
  unfold wordLimit at h ⊢
  omega

/-- What is written for an integer is one varint of its word. -/
theorem denotes_encode (v : Int) : Denotes (encode v) (word v) := by
  refine ⟨?_, word v, grouped_groups _, (Nat.mod_eq_of_lt (word_lt v)).symm⟩
  rw [encode, length_groups]
  have := word_lt v
  unfold wordLimit at this
  exact groupCount_le (k := 9) (by omega)

/-- No varint of a word is shorter than the one that is written. -/
theorem Denotes.size_le {raw : Bytes} {n : Nat} (h : Denotes raw n) {v : Int} (hv : word v = n) :
    size v ≤ raw.length := by
  obtain ⟨-, m, hm, rfl⟩ := h
  obtain ⟨k, hk⟩ : ∃ k, raw.length = k + 1 := ⟨raw.length - 1, by have := hm.length_pos; omega⟩
  have hlt : word v < 128 ^ (k + 1) := by
    calc word v = m % wordLimit := hv
      _ ≤ m := Nat.mod_le _ _
      _ < 128 ^ (k + 1) := hk ▸ hm.lt
  rw [hk, size]
  exact groupCount_le hlt

/-- A negative number that fits in 64 bits takes the longest varint. -/
theorem size_of_neg {v : Int} (hv : v < 0) (hl : -2 ^ 63 ≤ v) : size v = maxSize := by
  have hw : 128 ^ 9 ≤ word v := by unfold word wordLimit; omega
  have h1 := lt_groupCount hw
  have h2 := (denotes_encode v).1
  rw [length_encode] at h2
  unfold size maxSize at *
  omega

/-! ### Signed values -/

/-- The reader's cut to 32 bits is the residue between -2^31 and 2^31. -/
theorem toInt32_eq_bmod (n : Nat) : toInt32 n = Int.bmod n halfLimit := by
  rw [toInt32, Int.bmod_def, halfLimit]
  split <;> split <;> omega

/-- The word of an integer has the same low 32 bits. -/
theorem toInt32_word_eq_bmod (v : Int) : toInt32 (word v) = Int.bmod v (2 ^ 32) := by
  rw [toInt32_eq_bmod, Int.bmod_def, Int.bmod_def, halfLimit, word, wordLimit]
  split <;> split <;> omega

theorem bmod_of_int32 {v : Int} (hl : -2 ^ 31 ≤ v) (hu : v < 2 ^ 31) :
    Int.bmod v (2 ^ 32) = v :=
  Int.bmod_eq_of_le (by omega) (by omega)

end Varint

/-! ### Tags -/

open Varint

/-- Shifted by three bits, the number leaves room for the wire type. -/
theorem tagWord_eq (number : Int) (wire : WireType) :
    tagWord number wire.code = word (8 * number) + wire.code := by
  have hw := wire.code_lt
  have h8 : word (8 * number) = 2 ^ 3 * (word (8 * number) / 8) := by
    unfold word wordLimit; omega
  rw [tagWord, word_natCast (by unfold wordLimit; omega), h8,
    ← Nat.two_pow_add_eq_or_of_lt (by omega)]

theorem tagWord_lt (number : Int) (wire : WireType) : tagWord number wire.code < wordLimit := by
  have hw := wire.code_lt
  rw [tagWord_eq]
  unfold word wordLimit
  omega

/-- The wire type never changes the length of a tag. -/
theorem size_tagWord (number : Int) (wire : WireType) :
    size (tagWord number wire.code) = tagSize number := by
  have hw := wire.code_lt
  have h8 : word (8 * number) % 8 = 0 := by unfold word wordLimit; omega
  rw [size, tagSize, size, word_natCast (tagWord_lt number wire), tagWord_eq, groupCount]
  conv_rhs => rw [groupCount]
  rw [show (word (8 * number) + wire.code) / 128 = word (8 * number) / 128 by omega]
  split <;> split
  · rfl
  · omega
  · omega
  · rfl

/-- A number below 2^61 and its wire type stand side by side in the tag. -/
theorem tagWord_of_number {number : Nat} (h : number < 2 ^ 61) (wire : WireType) :
    tagWord number wire.code = 8 * number + wire.code := by
  rw [tagWord_eq, show (8 * (number : Int)) = ((8 * number : Nat) : Int) by omega,
    word_natCast (by unfold wordLimit; omega)]

theorem denotes_encode_tagWord {number : Nat} (h : number < 2 ^ 61) (wire : WireType) :
    Denotes (Varint.encode (tagWord number wire.code)) (8 * number + wire.code) := by
  have hw : word (tagWord number wire.code) = 8 * number + wire.code := by
    rw [word_natCast (tagWord_lt number wire), tagWord_of_number h]
  rw [← hw]
  exact denotes_encode _

end WireSchema
