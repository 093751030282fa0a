/-
# The codec of a message by numbers

Where every name of a module stands for what it was written for, the methods
of its classes come down to the numbers of the fields. Writing a message is
writing numbers and values; a reader has one slot for each field, in order,
which holds the notes of that field. Nothing here can fail for its names. What
the methods themselves do is in `Codec.Encode` and `Codec.Reader`, and that it
is this, where the names hold, is proved in `Proofs.Bridge`.

When two slots have the same number, the first one notes all occurrences.

Key definitions: `FieldValues`, `encodeTo`, `encode`, `encodedSize`, `Slot`,
`noteOccurrence`, `scan`, `closeSlots`, `Reader`, `Reader.decode`,
`Reader.get`, `Reader.close`.
Key theorems: `le_of_scanPayload`.
-/

import WireSchema.Codec.Encode
import WireSchema.Codec.Reader

namespace WireSchema

/-! ### Writing -/

/-- The number of a field and the values it holds, if it was set. -/
structure FieldValues where
  number : Int
  values : Option (List Int)
deriving DecidableEq, Repr

namespace FieldValues

/-- The predicted size of a field. -/
def size (f : FieldValues) : Nat :=
  match f.values with
  | none | some [] => 0
  | some [v] => tagSize f.number + int32Size v
  | some values =>
    tagSize f.number + Varint.size (packedSize values) + packedSize values

/-- Appends a field. -/
def writeTo (f : FieldValues) (w : Writer) : Writer :=
  match f.values with
  | none | some [] => w
  | some [v] => w.appendInt32 f.number v
  | some values =>
    values.foldl Writer.appendInt32Value (w.appendBytesTag f.number (packedSize values))

end FieldValues

/-- Appends the fields of a message in order. -/
def encodeTo (fields : List FieldValues) (w : Writer) : Writer :=
  fields.foldl (fun w f => f.writeTo w) w

/-- The bytes of a message. -/
def encode (fields : List FieldValues) : Bytes := (encodeTo fields {}).bytes

/-- The predicted size of a message. -/
def encodedSize : List FieldValues → Nat
  | [] => 0
  | f :: rest => f.size + encodedSize rest

/-! ### Noting occurrences -/

/-- The occurrences of one field: offsets and layouts, if it has occurred. -/
structure Slot where
  number : Int
  offsets : Option (List Nat) := none
  wires : Option (List WireType) := none
deriving DecidableEq, Repr

namespace Slot

/-- Takes the two lists of the slot unless it has them. -/
def acquire (s : Slot) (a : Allocator) : Slot × Allocator :=
  match s.offsets with
  | some _ => (s, a)
  | none => ({ s with offsets := some [], wires := some [] }, a.newList.newList)

/-- Adds an occurrence to the lists of the slot. -/
def push (s : Slot) (offset : Nat) (wire : WireType) : Slot :=
  { s with offsets := s.offsets.map (· ++ [offset]), wires := s.wires.map (· ++ [wire]) }

/-- Gives the list of offsets back. -/
def releaseOffsets (s : Slot) (a : Allocator) : Option ReleaseError × Slot × Allocator :=
  match s.offsets with
  | none => (none, s, a)
  | some _ =>
    match a.release with
    | .ok a' => (none, { s with offsets := none }, a')
    | .error e => (some e, s, a)

/-- Gives the list of layouts back. -/
def releaseWires (s : Slot) (a : Allocator) : Option ReleaseError × Slot × Allocator :=
  match s.wires with
  | none => (none, s, a)
  | some _ =>
    match a.release with
    | .ok a' => (none, { s with wires := none }, a')
    | .error e => (some e, s, a)

/-- Gives both lists back, the offsets first, and stops at an error. -/
def close (s : Slot) (a : Allocator) : Option ReleaseError × Slot × Allocator :=
  match s.releaseOffsets a with
  | (none, s', a') => s'.releaseWires a'
  | stopped => stopped

end Slot

/-- Closes the slots in order. An error stops this, and what was given back
before stays given back. -/
def closeSlots : List Slot → Allocator → Option ReleaseError × List Slot × Allocator
  | [], a => (none, [], a)
  | s :: rest, a =>
    match s.close a with
    | (none, s', a') =>
      match closeSlots rest a' with
      | (e, rest', a'') => (e, s' :: rest', a'')
    | (some e, s', a') => (some e, s' :: rest, a')

/-- Notes an occurrence in the first slot of that number, if there is one. -/
def noteOccurrence (number offset : Nat) (wire : WireType) :
    List Slot → Allocator → Option (List Slot × Allocator)
  | [], _ => none
  | s :: rest, a =>
    if s.number = (number : Int) then
      match s.acquire a with
      | (s', a') => some (s'.push offset wire :: rest, a')
    else
      match noteOccurrence number offset wire rest a with
      | some (rest', a') => some (s :: rest', a')
      | none => none

/-- Handles the payload behind a tag: an occurrence of a known field is noted
before it is passed over, any other payload is only passed over. -/
def scanPayload (b : Buffer) (tag : Tag) (offset : Nat) (slots : List Slot) (a : Allocator) :
    Except DecodeError Nat × List Slot × Allocator :=
  match noteOccurrence tag.number offset tag.wire slots a with
  | some (slots', a') => (skipKnown b tag offset, slots', a')
  | none => (b.skipPayload offset tag.wire, slots, a)

/-- Handling a payload never goes back. -/
theorem le_of_scanPayload {b : Buffer} {tag : Tag} {offset next : Nat} {slots slots' : List Slot}
    {a a' : Allocator} (h : scanPayload b tag offset slots a = (.ok next, slots', a')) :
    offset ≤ next := by
  unfold scanPayload at h
  split at h
  · exact le_of_skipKnown (congrArg Prod.fst h)
  · exact Buffer.le_of_skipPayload (congrArg Prod.fst h)

/-- Scans the records from `offset` to the end of the buffer. -/
def scan (b : Buffer) (offset : Nat) (slots : List Slot) (a : Allocator) :
    Except DecodeError Unit × List Slot × Allocator :=
  if offset < b.size then
    match _ht : b.readTag offset with
    | .error e => (.error e, slots, a)
    | .ok tag =>
      match _hp : scanPayload b tag (offset + tag.size) slots a with
      | (.error e, slots', a') => (.error e, slots', a')
      | (.ok next, slots', a') => scan b next slots' a'
  else (.ok (), slots, a)
termination_by b.size - offset
decreasing_by
  have := Buffer.readTag_size_pos _ht
  have := le_of_scanPayload _hp
  omega

section Scan

variable {b : Buffer} {offset next : Nat} {slots slots' : List Slot} {a a' : Allocator} {tag : Tag}
  {e : DecodeError}

theorem scan_of_ge (h : b.size ≤ offset) : scan b offset slots a = (.ok (), slots, a) := by
  rw [scan, if_neg (by omega)]

theorem scan_of_readTag_error (hlt : offset < b.size) (ht : b.readTag offset = .error e) :
    scan b offset slots a = (.error e, slots, a) := by
  rw [scan, if_pos hlt]
  split
  next h =>
    rw [ht] at h
    cases h
    rfl
  next h =>
    rw [ht] at h
    cases h

theorem scan_of_payload_error (hlt : offset < b.size) (ht : b.readTag offset = .ok tag)
    (hp : scanPayload b tag (offset + tag.size) slots a = (.error e, slots', a')) :
    scan b offset slots a = (.error e, slots', a') := by
  rw [scan, if_pos hlt]
  split
  next h =>
    rw [ht] at h
    cases h
  next t h =>
    rw [ht] at h
    cases h
    split
    next h =>
      rw [hp] at h
      cases h
      rfl
    next h =>
      rw [hp] at h
      cases h

/-- The scan goes on where the payload behind a tag ends. -/
theorem scan_of_read (hlt : offset < b.size) (ht : b.readTag offset = .ok tag)
    (hp : scanPayload b tag (offset + tag.size) slots a = (.ok next, slots', a')) :
    scan b offset slots a = scan b next slots' a' := by
  rw [scan, if_pos hlt]
  split
  next h => rw [ht] at h; cases h
  next t h =>
    rw [ht] at h
    cases h
    split
    next h => rw [hp] at h; cases h
    next next' slots'' a'' h =>
      rw [hp] at h
      cases h
      rfl

end Scan

/-! ### Reading -/

/-- The values from `offset` to `stop`, in a block that starts at `start`. -/
def readPacked (b : Buffer) (start offset stop : Nat) : Except DecodeError (List Int) :=
  if offset < stop then
    match _h : b.readVarint offset with
    | .error e => .error e
    | .ok r =>
      match readPacked b start (offset + r.size) stop with
      | .ok values => .ok (Varint.toInt32 r.value :: values)
      | .error e => .error e
  else if offset = stop then .ok []
  else .error ⟨.packedOverrun, start⟩
termination_by stop - offset
decreasing_by
  have := Buffer.readVarint_size_pos _h
  omega

/-- The values of the block whose length prefix stands at `start`. -/
def readBlock (b : Buffer) (start : Nat) : Except DecodeError (List Int) :=
  match b.readVarint start with
  | .error e => .error e
  | .ok length =>
    match b.advance (start + length.size) length.value with
    | .ok stop => readPacked b start (start + length.size) stop
    | .error e => .error e

/-- The values of one occurrence. -/
def readOccurrence (b : Buffer) (start : Nat) (wire : WireType) : Except DecodeError (List Int) :=
  match wire with
  | .bytes => readBlock b start
  | _ =>
    match b.readInt32 start with
    | .ok r => .ok [r.value]
    | .error e => .error e

/-- The values of several occurrences, in order. -/
def readOccurrences (b : Buffer) : List (Nat × WireType) → Except DecodeError (List Int)
  | [] => .ok []
  | (start, wire) :: rest =>
    match readOccurrence b start wire with
    | .error e => .error e
    | .ok values =>
      match readOccurrences b rest with
      | .ok more => .ok (values ++ more)
      | .error e => .error e

/-- The noted occurrences of a slot. -/
def Slot.occurrences (s : Slot) : List (Nat × WireType) :=
  (s.offsets.getD []).zip (s.wires.getD [])

/-- A scanned message. -/
structure Reader where
  buffer : Buffer
  slots : List Slot
deriving DecidableEq, Repr

namespace Reader

/-- Scans a message for the fields of the given numbers. If the scan fails,
what it took from the allocator is given back. -/
def decode (numbers : List Int) (data : Bytes) (a : Allocator) :
    Except CodecError Reader × Allocator :=
  match scan ⟨data⟩ 0 (numbers.map fun n => { number := n }) a with
  | (.ok (), slots, a') => (.ok ⟨⟨data⟩, slots⟩, a')
  | (.error e, slots, a') =>
    match closeSlots slots a' with
    | (none, _, a'') => (.error (.decode e), a'')
    | (some r, _, a'') => (.error (.release r), a'')

/-- The values of a slot, in a list from the allocator. If they cannot be
read, the list is given back. -/
def get (r : Reader) (slot : Slot) (members : List (String × Int)) (a : Allocator) :
    Except CodecError (List EnumValue) × Allocator :=
  match readOccurrences r.buffer slot.occurrences with
  | .ok values => (.ok (values.map (EnumValue.ofInt members)), a.newList)
  | .error e =>
    match a.newList.release with
    | .ok a' => (.error (.decode e), a')
    | .error f => (.error (.release f), a.newList)

/-- Gives the storage of a reader back. -/
def close (r : Reader) (a : Allocator) : Option ReleaseError × Reader × Allocator :=
  match closeSlots r.slots a with
  | (e, slots, a') => (e, { r with slots }, a')

end Reader

end WireSchema
