/-
# Reading by offset

A buffer is an encoded message that is read at any offset. Reads give the
value and the number of bytes it took; skips give the offset after what was
skipped and refuse to leave the buffer.

Key definitions: `Buffer`, `Buffer.readVarint`, `Buffer.readInt32`,
`Buffer.readTag`, `Buffer.advance`, `Buffer.skipPayload`, `Buffer.skipFrom`.
Key theorems: `Buffer.readTag_size_pos`, `Buffer.le_of_skipPayload`,
`Buffer.skipFrom_natCast`.
-/

import WireSchema.Wire.DecodeError

namespace WireSchema

/-- A value and the number of bytes it was read from. -/
structure Sized (α : Type) where
  value : α
  size : Nat
deriving DecidableEq, Repr

/-- A tag and the number of bytes it was read from. -/
structure Tag where
  number : Nat
  wire : WireType
  size : Nat
deriving DecidableEq, Repr

/-- An encoded message. -/
structure Buffer where
  data : Bytes
deriving DecidableEq, Repr

namespace Buffer

/-- The number of bytes in the buffer. -/
def size (b : Buffer) : Nat := b.data.length

/-- Whether the offset lies before the end. -/
def hasNext (b : Buffer) (offset : Int) : Bool := offset < (b.size : Int)

/-- The varint at an offset. -/
def readVarint (b : Buffer) (offset : Nat) : Except DecodeError (Sized Nat) :=
  match Varint.read (b.data.drop offset) with
  | .ok (value, size) => .ok ⟨value, size⟩
  | .error fault => .error ⟨.varint fault, offset⟩

/-- The varint at an offset, cut down to 32 signed bits. -/
def readInt32 (b : Buffer) (offset : Nat) : Except DecodeError (Sized Int) :=
  match b.readVarint offset with
  | .ok r => .ok ⟨Varint.toInt32 r.value, r.size⟩
  | .error e => .error e

/-- The tag at an offset. A zero field number is reported before a wire type
without meaning. -/
def readTag (b : Buffer) (offset : Nat) : Except DecodeError Tag :=
  match b.readVarint offset with
  | .error e => .error e
  | .ok r =>
    if r.value / 8 = 0 then .error ⟨.zeroFieldNumber, offset⟩
    else
      match WireType.ofCode? (r.value % 8) with
      | some wire => .ok ⟨r.value / 8, wire, r.size⟩
      | none => .error ⟨.invalidWireType (r.value % 8), offset⟩

/-- The offset `length` bytes further on, if that is inside the buffer or at
its end. -/
def advance (b : Buffer) (offset length : Nat) : Except DecodeError Nat :=
  if offset + length ≤ b.size then .ok (offset + length)
  else .error ⟨.pastEnd length b.size, offset⟩

/-- `advance` for offsets and lengths that may be negative. -/
def skip (b : Buffer) (offset length : Int) : Except DecodeError Int :=
  if offset + length ≤ (b.size : Int) then .ok (offset + length)
  else .error ⟨.pastEnd length b.size, offset⟩

/-- The offset after the block whose length prefix stands at `offset`. -/
def skipBlock (b : Buffer) (offset : Nat) : Except DecodeError Nat :=
  match b.readVarint offset with
  | .ok length => b.advance (offset + length.size) length.value
  | .error e => .error e

/-- The offset after the varint at `offset`. -/
def skipVarint (b : Buffer) (offset : Nat) : Except DecodeError Nat :=
  match b.readVarint offset with
  | .ok r => .ok (offset + r.size)
  | .error e => .error e

/-- The offset after a payload of the given layout. Groups cannot be skipped. -/
def skipPayload (b : Buffer) (offset : Nat) (wire : WireType) : Except DecodeError Nat :=
  match wire with
  | .varint => b.skipVarint offset
  | .fixed64 => b.advance offset 8
  | .fixed32 => b.advance offset 4
  | .bytes => b.skipBlock offset
  | .startGroup | .endGroup => .error ⟨.unsupportedWireType wire, offset⟩

/-- `skipPayload` for offsets that may be negative. Only layouts of a fixed
length can be skipped there, since nothing can be read. -/
def skipFrom (b : Buffer) (offset : Int) (wire : WireType) : Except DecodeError Int :=
  match wire with
  | .fixed64 => b.skip offset 8
  | .fixed32 => b.skip offset 4
  | .startGroup | .endGroup => .error ⟨.unsupportedWireType wire, offset⟩
  | .varint | .bytes => (b.skipPayload offset.toNat wire).map Int.ofNat

/-- On natural numbers the two ways to move on agree. -/
theorem skip_natCast (b : Buffer) (offset length : Nat) :
    b.skip offset length = (b.advance offset length).map Int.ofNat := by
  simp only [skip, advance]
  split <;> split
  · rfl
  · omega
  · omega
  · rfl

/-- On natural numbers the two ways to skip a payload agree. -/
theorem skipFrom_natCast (b : Buffer) (offset : Nat) (wire : WireType) :
    b.skipFrom offset wire = (b.skipPayload offset wire).map Int.ofNat := by
  cases wire
  · rfl
  · exact b.skip_natCast offset 8
  · rfl
  · rfl
  · rfl
  · exact b.skip_natCast offset 4

theorem le_of_advance {b : Buffer} {offset length next : Nat}
    (h : b.advance offset length = .ok next) : offset ≤ next := by
  rw [advance] at h
  split at h
  · cases h; omega
  · cases h

theorem readVarint_size_pos {b : Buffer} {offset : Nat} {r : Sized Nat}
    (h : b.readVarint offset = .ok r) : 0 < r.size := by
  rw [readVarint] at h
  split at h
  next hr => cases h; exact (Varint.read_bounds hr).1
  next => cases h

theorem readTag_size_pos {b : Buffer} {offset : Nat} {t : Tag}
    (h : b.readTag offset = .ok t) : 0 < t.size := by
  rw [readTag] at h
  split at h
  · cases h
  next hr =>
    split at h
    · cases h
    · split at h
      · cases h; exact readVarint_size_pos hr
      · cases h

theorem le_of_skipVarint {b : Buffer} {offset next : Nat}
    (h : b.skipVarint offset = .ok next) : offset ≤ next := by
  rw [skipVarint] at h
  split at h
  · cases h; omega
  · cases h

theorem le_of_skipBlock {b : Buffer} {offset next : Nat}
    (h : b.skipBlock offset = .ok next) : offset ≤ next := by
  rw [skipBlock] at h
  split at h
  · have := le_of_advance h; omega
  · cases h

/-- Skipping a payload never goes back. -/
theorem le_of_skipPayload {b : Buffer} {offset next : Nat} {wire : WireType}
    (h : b.skipPayload offset wire = .ok next) : offset ≤ next := by
  cases wire <;> simp only [skipPayload] at h
  · exact le_of_skipVarint h
  · exact le_of_advance h
  · exact le_of_skipBlock h
  · cases h
  · cases h
  · exact le_of_advance h

end Buffer
end WireSchema
