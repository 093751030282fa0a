/-
# Writing records

A writer is the bytes written so far; every operation appends. A record
starts with its tag, the field number shifted past the three bits of the wire
type.

Key definitions: `Writer`, `Writer.appendVarint`, `Writer.appendTag`,
`Writer.appendInt32`, `Writer.appendBytesTag`, `int32Size`, `tagSize`.
-/

import WireSchema.Wire.Varint

namespace WireSchema

/-- The word of a tag: the field number above the three bits of the wire
type. Both parts may be any integers; their words are joined bit by bit. -/
def tagWord (number wire : Int) : Nat :=
  Varint.word (8 * number) ||| Varint.word wire

/-- The encoded size of a field value. A negative one is extended to 64 bits
and takes the longest varint, whatever its magnitude. -/
def int32Size (v : Int) : Nat :=
  if v < 0 then Varint.maxSize else Varint.size v

/-- The encoded size of a tag; the wire type never changes it. -/
def tagSize (number : Int) : Nat := Varint.size (8 * number)

/-- Bytes under construction. -/
structure Writer where
  bytes : Bytes := []
deriving DecidableEq, Repr

namespace Writer

/-- The number of bytes written so far. -/
def length (w : Writer) : Nat := w.bytes.length

/-- Appends bytes as they are. -/
def append (w : Writer) (more : Bytes) : Writer := ⟨w.bytes ++ more⟩

/-- Appends the varint of an integer. -/
def appendVarint (w : Writer) (v : Int) : Writer := w.append (Varint.encode v)

/-- Appends a tag. -/
def appendTag (w : Writer) (number wire : Int) : Writer :=
  w.appendVarint (tagWord number wire)

/-- Appends a field value without its tag. -/
def appendInt32Value (w : Writer) (v : Int) : Writer := w.appendVarint v

/-- Appends a field value behind its tag. -/
def appendInt32 (w : Writer) (number v : Int) : Writer :=
  (w.appendTag number WireType.varint.code).appendInt32Value v

/-- Appends the tag and the length of a block. -/
def appendBytesTag (w : Writer) (number length : Int) : Writer :=
  (w.appendTag number WireType.bytes.code).appendVarint length

@[simp] theorem bytes_append (w : Writer) (more : Bytes) :
    (w.append more).bytes = w.bytes ++ more := rfl

@[simp] theorem bytes_appendVarint (w : Writer) (v : Int) :
    (w.appendVarint v).bytes = w.bytes ++ Varint.encode v := rfl

end Writer
end WireSchema
