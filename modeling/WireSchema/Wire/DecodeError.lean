/-
# Faults of encoded messages

A read that fails says what was wrong and at which offset of the message.

Key definitions: `DecodeFault`, `DecodeError`, `DecodeError.message`.
-/

import WireSchema.Wire.Varint

namespace WireSchema

/-- What makes bytes unreadable. -/
inductive DecodeFault where
  /-- No varint stands at the offset. -/
  | varint (fault : Varint.Fault)
  /-- A tag with field number zero. -/
  | zeroFieldNumber
  /-- A tag whose wire type code has no meaning. -/
  | invalidWireType (code : Nat)
  /-- A length that leads out of a buffer of `size` bytes. -/
  | pastEnd (length : Int) (size : Nat)
  /-- A payload that cannot be skipped. -/
  | unsupportedWireType (wire : WireType)
  /-- A field that arrives in a layout it never has. -/
  | unexpectedWireType (number : Int) (wire : WireType)
  /-- The last value of a packed block ends outside the block. -/
  | packedOverrun
deriving DecidableEq, Repr

/-- The text of a fault. -/
def DecodeFault.message : DecodeFault → String
  | varint .truncated => "truncated varint"
  | varint .tooLong => "varint longer than 10 bytes"
  | zeroFieldNumber => "invalid field number 0"
  | invalidWireType code => s!"invalid wire type {code}"
  | pastEnd length size => s!"length {length} runs past end of buffer ({size} bytes)"
  | unsupportedWireType wire => "unsupported wire type " ++ wire.label
  | unexpectedWireType number wire =>
    "field " ++ toString number ++ " cannot use wire type " ++ wire.label
  | packedOverrun => "packed value overruns its block"

/-- A fault and the offset that it is reported at. -/
structure DecodeError where
  fault : DecodeFault
  offset : Int
deriving DecidableEq, Repr

/-- The text of an error names the fault, then the offset. -/
def DecodeError.message (e : DecodeError) : String :=
  e.fault.message ++ " (at offset " ++ toString e.offset ++ ")"

end WireSchema
