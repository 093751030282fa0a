/-
# Reading descriptor sets

A descriptor set is a message whose fields hold messages, and so on. Records
are read one after the other; a record of a known field in the expected
layout is used, any other record is passed over, groups included. Every
message that is entered takes one level from a fixed depth, so that no input
nests without limit. A message too many is a fault of its own; groups that
nest too deep are as corrupt as groups that do not end.

Key definitions: `BinaryFault`, `readRecord`, `foldRecords`, `checkMessage`,
`FileProto.readSet`.
-/

import WireSchema.Descriptor.Basic
import WireSchema.Descriptor.Layout
import WireSchema.Text.Utf8
import WireSchema.Wire.Varint

namespace WireSchema

/-- Why bytes are not a descriptor set. -/
inductive BinaryFault where
  | corrupt
  | tooDeep
deriving DecidableEq, Repr

/-- The text of the fault. -/
def BinaryFault.message : BinaryFault → String
  | corrupt => "Wire format was corrupt"
  | tooDeep => "Exceeded upb_DecodeOptions_MaxDepth"

/-- What follows a tag. -/
inductive Payload where
  | varint (value : Nat)
  | fixed
  | block (bytes : Bytes)
  | startGroup
  | endGroup
deriving DecidableEq, Repr

/-- The most bytes that a tag or the length of a block takes. Other varints
take as many as 64 bits need. -/
def maxHeaderSize : Nat := 5

/-- A tag is a short varint whose value fits 32 bits. -/
def readRecordTag (bytes : Bytes) : Except BinaryFault (Nat × Bytes) :=
  match Varint.readGroups maxHeaderSize bytes with
  | .ok (tag, size) =>
    if tag < Varint.halfLimit then .ok (tag, bytes.drop size) else .error .corrupt
  | .error _ => .error .corrupt

/-- A payload of the given wire type code, and the bytes after it. -/
def readPayload (code : Nat) (bytes : Bytes) : Except BinaryFault (Payload × Bytes) :=
  match WireType.ofCode? code with
  | some .varint =>
    match Varint.read bytes with
    | .ok (value, size) => .ok (.varint value, bytes.drop size)
    | .error _ => .error .corrupt
  | some .fixed64 => if 8 ≤ bytes.length then .ok (.fixed, bytes.drop 8) else .error .corrupt
  | some .fixed32 => if 4 ≤ bytes.length then .ok (.fixed, bytes.drop 4) else .error .corrupt
  | some .bytes =>
    match Varint.readGroups maxHeaderSize bytes with
    | .ok (length, size) =>
      if size + length ≤ bytes.length then
        .ok (.block ((bytes.drop size).take length), bytes.drop (size + length))
      else .error .corrupt
    | .error _ => .error .corrupt
  | some .startGroup => .ok (.startGroup, bytes)
  | some .endGroup => .ok (.endGroup, bytes)
  | none => .error .corrupt

/-- The number and payload of the first record, and the bytes after it. -/
def readRecord (bytes : Bytes) : Except BinaryFault (Nat × Payload × Bytes) :=
  match readRecordTag bytes with
  | .error f => .error f
  | .ok (tag, rest) =>
    match readPayload (tag % 8) rest with
    | .ok (payload, rest') => .ok (tag / 8, payload, rest')
    | .error f => .error f

theorem length_of_readRecordTag {bytes rest : Bytes} {tag : Nat}
    (h : readRecordTag bytes = .ok (tag, rest)) : rest.length < bytes.length := by
  unfold readRecordTag at h
  split at h
  next hr =>
    have := Varint.readGroups_bounds hr
    split at h
    · cases h
      simp only [List.length_drop]; omega
    · cases h
  next => cases h

theorem length_of_readPayload {bytes rest : Bytes} {code : Nat} {payload : Payload}
    (h : readPayload code bytes = .ok (payload, rest)) : rest.length ≤ bytes.length := by
  unfold readPayload at h
  repeat' split at h
  all_goals cases h
  all_goals simp

/-- Reading a record leaves fewer bytes. -/
theorem length_of_readRecord {bytes rest : Bytes} {number : Nat} {payload : Payload}
    (h : readRecord bytes = .ok (number, payload, rest)) : rest.length < bytes.length := by
  unfold readRecord at h
  split at h
  · cases h
  next ht =>
    split at h
    next hp =>
      cases h
      have := length_of_readRecordTag ht
      have := length_of_readPayload hp
      omega
    next => cases h

/-- The bytes after the groups that are open, the innermost first. A group
ends by its own number; at most `depth` groups are open at a time. Nothing
else about a record in a group matters, not even its number. -/
def skipGroups (depth : Nat) (groups : List Nat) (bytes : Bytes) : Except BinaryFault Bytes :=
  match groups with
  | [] => .ok bytes
  | innermost :: outer =>
    match _h : readRecord bytes with
    | .error f => .error f
    | .ok (number, .startGroup, rest) =>
      if groups.length < depth then skipGroups depth (number :: groups) rest
      else .error .corrupt
    | .ok (number, .endGroup, rest) =>
      if number = innermost then skipGroups depth outer rest else .error .corrupt
    | .ok (_, _, rest) => skipGroups depth groups rest
termination_by bytes.length
decreasing_by all_goals exact length_of_readRecord _h

theorem length_of_skipGroups (depth : Nat) (groups : List Nat) (bytes : Bytes) {rest : Bytes}
    (h : skipGroups depth groups bytes = .ok rest) : rest.length ≤ bytes.length := by
  fun_induction skipGroups depth groups bytes with
  | case1 => cases h; exact Nat.le_refl _
  | case2 => cases h
  | case3 _ _ _ _ _ hr hlt ih =>
    rw [if_pos hlt] at h
    exact Nat.le_trans (ih h) (Nat.le_of_lt (length_of_readRecord hr))
  | case4 _ _ _ _ _ _ hlt =>
    rw [if_neg hlt] at h
    cases h
  | case5 _ _ _ _ hr ih => exact Nat.le_trans (ih h) (Nat.le_of_lt (length_of_readRecord hr))
  | case6 => cases h
  | case7 _ _ _ _ _ _ _ _ hr ih =>
    exact Nat.le_trans (ih h) (Nat.le_of_lt (length_of_readRecord hr))

/-- Reads the records of a message one after the other and hands each one to
`step`; groups are passed over. No field has the number zero. -/
def foldRecords {σ : Type} (depth : Nat) (step : σ → Nat → Payload → Except BinaryFault σ)
    (state : σ) (bytes : Bytes) : Except BinaryFault σ :=
  if bytes.isEmpty then .ok state
  else
    match _h : readRecord bytes with
    | .error f => .error f
    | .ok (0, _, _) => .error .corrupt
    | .ok (_, .endGroup, _) => .error .corrupt
    | .ok (number, .startGroup, rest) =>
      if depth = 0 then .error .corrupt
      else
        match _hg : skipGroups depth [number] rest with
        | .ok rest' => foldRecords depth step state rest'
        | .error f => .error f
    | .ok (number, payload, rest) =>
      match step state number payload with
      | .ok state' => foldRecords depth step state' rest
      | .error f => .error f
termination_by bytes.length
decreasing_by
  · have := length_of_readRecord _h
    have := length_of_skipGroups depth [number] rest _hg
    omega
  · exact length_of_readRecord _h

/-- Reads packed numbers of which nothing is used. -/
def readUnusedNumbers (bytes : Bytes) : Except BinaryFault Unit :=
  if bytes.isEmpty then .ok ()
  else
    match _h : Varint.read bytes with
    | .ok (_, size) => readUnusedNumbers (bytes.drop size)
    | .error _ => .error .corrupt
termination_by bytes.length
decreasing_by
  have := Varint.read_bounds _h
  simp only [List.length_drop]; omega

/-- Enters a message one level further down. -/
def descend {α : Type} (depth : Nat) (read : Nat → Bytes → Except BinaryFault α)
    (block : Bytes) : Except BinaryFault α :=
  match depth with
  | 0 => .error .tooDeep
  | depth + 1 => read depth block

/-- Reads what follows a tag and is not used; `enter` reads the message in a
block. -/
def checkPayload (enter : DescriptorKind → Bytes → Except BinaryFault Unit)
    (kind : DescriptorKind) (number : Nat) : Payload → Except BinaryFault Unit
  | .block inner =>
    match kind.parts.lookup number with
    | some part => enter part inner
    | none => if kind.numberLists.contains number then readUnusedNumbers inner else .ok ()
  | _ => .ok ()

/-- Reads a message of which nothing is used, with all it holds. -/
def checkMessage : Nat → DescriptorKind → Bytes → Except BinaryFault Unit
  | 0, kind, bytes =>
    foldRecords 0 (fun _ => checkPayload (fun _ _ => .error .tooDeep) kind) () bytes
  | depth + 1, kind, bytes =>
    foldRecords (depth + 1) (fun _ => checkPayload (checkMessage depth) kind) () bytes

/-- Reads a record of which nothing is used, in a message of the given kind. -/
def checkRecord (depth : Nat) (kind : DescriptorKind) (number : Nat) (payload : Payload) :
    Except BinaryFault Unit :=
  checkPayload (fun part => descend depth fun depth => checkMessage depth part) kind number payload

/-- Reads the name and number of an enum's value. -/
def readEnumValue (depth : Nat) (bytes : Bytes) : Except BinaryFault (String × Int) :=
  foldRecords depth (fun (name, value) number payload =>
    match number, payload with
    | 1, .block text => .ok (decodeUtf8 text, value)
    | 2, .varint n => .ok (name, Varint.toInt32 n)
    | _, _ => do
      checkRecord depth .enumValue number payload
      .ok (name, value)) ("", 0) bytes

/-- Reads an enum. -/
def readEnum (depth : Nat) (bytes : Bytes) : Except BinaryFault EnumProto :=
  foldRecords depth (fun e number payload =>
    match number, payload with
    | 1, .block text => .ok { e with name := decodeUtf8 text }
    | 2, .block inner => do
      let value ← descend depth readEnumValue inner
      .ok { e with values := e.values ++ [value] }
    | _, _ => do
      checkRecord depth .enum number payload
      .ok e) {} bytes

/-- Reads a field. Types and labels without a meaning are passed over. -/
def readField (depth : Nat) (bytes : Bytes) : Except BinaryFault FieldProto :=
  foldRecords depth (fun f number payload =>
    match number, payload with
    | 1, .block text => .ok { f with name := decodeUtf8 text }
    | 3, .varint n => .ok { f with number := Varint.toInt32 n }
    | 4, .varint n => .ok { f with label := (Label.ofCode? (n % Varint.halfLimit)).getD f.label }
    | 5, .varint n => .ok { f with type := (FieldType.ofCode? (n % Varint.halfLimit)).getD f.type }
    | 6, .block text => .ok { f with typeName := decodeUtf8 text }
    | _, _ => do
      checkRecord depth .field number payload
      .ok f) {} bytes

/-- Reads the options of a message into what earlier options said: whether it
is an entry of a map. -/
def readMessageOptions (mapEntry : Bool) (depth : Nat) (bytes : Bytes) : Except BinaryFault Bool :=
  foldRecords depth (fun mapEntry number payload =>
    match number, payload with
    | 7, .varint n => .ok (n != 0)
    | _, _ => do
      checkRecord depth .messageOptions number payload
      .ok mapEntry) mapEntry bytes

/-- Reads a message with all it holds, down to the given depth. -/
def readMessage : Nat → Bytes → Except BinaryFault MessageProto
  | depth, bytes =>
    foldRecords depth (fun (.mk name fields enums nested mapEntry) number payload =>
      match number, payload with
      | 1, .block text => .ok (.mk (decodeUtf8 text) fields enums nested mapEntry)
      | 2, .block inner => do
        let f ← descend depth readField inner
        .ok (.mk name (fields ++ [f]) enums nested mapEntry)
      | 3, .block inner =>
        match depth with
        | 0 => .error .tooDeep
        | depth + 1 => do
          let m ← readMessage depth inner
          .ok (.mk name fields enums (nested ++ [m]) mapEntry)
      | 4, .block inner => do
        let e ← descend depth readEnum inner
        .ok (.mk name fields (enums ++ [e]) nested mapEntry)
      | 7, .block inner => do
        let mapEntry ← descend depth (readMessageOptions mapEntry) inner
        .ok (.mk name fields enums nested mapEntry)
      | _, _ => do
        checkRecord depth .message number payload
        .ok (.mk name fields enums nested mapEntry)) (.mk "" [] [] [] false) bytes

/-- Reads a file. -/
def readFile (depth : Nat) (bytes : Bytes) : Except BinaryFault FileProto :=
  foldRecords depth (fun f number payload =>
    match number, payload with
    | 1, .block text => .ok { f with name := decodeUtf8 text }
    | 2, .block text => .ok { f with package := decodeUtf8 text }
    | 4, .block inner => do
      let m ← descend depth readMessage inner
      .ok { f with messages := f.messages ++ [m] }
    | 5, .block inner => do
      let e ← descend depth readEnum inner
      .ok { f with enums := f.enums ++ [e] }
    | _, _ => do
      checkRecord depth .file number payload
      .ok f) {} bytes

/-- The number of levels that messages and groups may nest. -/
def maxDepth : Nat := 100

/-- Reads the files of a descriptor set. -/
def FileProto.readSet (bytes : Bytes) : Except BinaryFault (List FileProto) :=
  foldRecords maxDepth (fun files number payload =>
    match number, payload with
    | 1, .block inner => do
      let f ← descend maxDepth readFile inner
      .ok (files ++ [f])
    | _, _ => .ok files) [] bytes

end WireSchema
