/-
# Reading a message

A reader does not decode a message when it gets it. It scans the records
once and notes, for every field it knows, where the occurrences start and
how they are laid out. The notes of a field are two lists from the reader's
allocator, taken when the field first occurs and given back when the reader
is closed. An accessor goes back to the noted offsets and decodes the values
there: one value, or a block of them. It reads a block from the whole message,
so it checks that the last value ends where the block does. The integers become
members of the field's enum where there are such members.

The notes of a field are two attributes of the reader, which go by their names:
fields whose attributes have one name inside the class share them. Offsets and
layouts never do, since the names of the ones end in `_offsets` and of the
others in `_wires`, numbers apart. The constants of the fields and the classes
of their enums are looked up by name too. Only errors of the message are
caught; after any other exception what was taken stays taken.

Key definitions: `EnumValue`, `CodecError`, `ReaderObject`,
`LoadedModule.scan`, `LoadedModule.decode`, `LoadedModule.get`,
`LoadedModule.close`.
Key theorems: `LoadedModule.scanPayload_cases`, `LoadedModule.le_of_scanPayload`.
-/

import WireSchema.Codec.Scope
import WireSchema.Wire.Allocator
import WireSchema.Wire.Buffer

namespace WireSchema

/-- A decoded value: a member of an enum, or an integer that names none. -/
inductive EnumValue where
  | member (name : String)
  | number (value : Int)
deriving DecidableEq, Repr

/-- The first member with the value, or the value itself. -/
def EnumValue.ofInt (members : List (String × Int)) (value : Int) : EnumValue :=
  match members.find? (·.2 == value) with
  | some (name, _) => .member name
  | none => .number value

/-- The value of an enum with these members for an integer, which stands for
itself where no member has it. An enum without members may refuse. -/
def EnumValue.fromInt (i : Interpreter) (members : List (String × Int)) (value : Int) :
    Except NameFault EnumValue :=
  if i.refusesMemberless && members.isEmpty then .error .notCallable
  else .ok (.ofInt members value)

/-- Why a message cannot be read or its storage not be given back. -/
inductive CodecError where
  | decode (e : DecodeError)
  | release (e : ReleaseError)
  | name (e : NameFault)
deriving DecidableEq, Repr

/-- An object of a reader class: the message, and the lists of its attributes,
where they have one. -/
structure ReaderObject where
  buffer : Buffer
  offsets : String → Option (List Nat) := fun _ => none
  wires : String → Option (List WireType) := fun _ => none

/-- The attributes that hold the notes of a field. -/
structure Storage where
  offsets : String
  wires : String
deriving DecidableEq, Repr

namespace ReaderObject

/-- Sets the attribute of a list of offsets. -/
def setOffsets (r : ReaderObject) (name : String) (list : Option (List Nat)) : ReaderObject :=
  { r with offsets := fun x => if x = name then list else r.offsets x }

/-- Sets the attribute of a list of layouts. -/
def setWires (r : ReaderObject) (name : String) (list : Option (List WireType)) : ReaderObject :=
  { r with wires := fun x => if x = name then list else r.wires x }

/-- Takes the two lists of a field unless it has offsets. -/
def acquire (r : ReaderObject) (s : Storage) (a : Allocator) : ReaderObject × Allocator :=
  match r.offsets s.offsets with
  | some _ => (r, a)
  | none => ((r.setOffsets s.offsets (some [])).setWires s.wires (some []), a.newList.newList)

/-- Adds an occurrence to the lists of a field, the offset first. There may be
no list for the layout. -/
def push (r : ReaderObject) (s : Storage) (offset : Nat) (wire : WireType) :
    Option NameFault × ReaderObject :=
  let noted := r.setOffsets s.offsets ((r.offsets s.offsets).map (· ++ [offset]))
  match r.wires s.wires with
  | some wires => (none, noted.setWires s.wires (some (wires ++ [wire])))
  | none => (some .noAttribute, noted)

/-- Notes an occurrence of a field. -/
def note (r : ReaderObject) (s : Storage) (offset : Nat) (wire : WireType) (a : Allocator) :
    Option NameFault × ReaderObject × Allocator :=
  let taken := r.acquire s a
  ((taken.1.push s offset wire).1, (taken.1.push s offset wire).2, taken.2)

/-- Gives a list of offsets back, if there is one. -/
def releaseOffsets (r : ReaderObject) (name : String) (a : Allocator) :
    Option ReleaseError × ReaderObject × Allocator :=
  match r.offsets name with
  | none => (none, r, a)
  | some _ =>
    match a.release with
    | .ok a' => (none, r.setOffsets name none, a')
    | .error e => (some e, r, a)

/-- Gives a list of layouts back, if there is one. -/
def releaseWires (r : ReaderObject) (name : String) (a : Allocator) :
    Option ReleaseError × ReaderObject × Allocator :=
  match r.wires name with
  | none => (none, r, a)
  | some _ =>
    match a.release with
    | .ok a' => (none, r.setWires name none, a')
    | .error e => (some e, r, a)

/-- Gives the lists of several fields back, field by field, the offsets first.
An error stops this, and what was given back before stays given back. -/
def releaseAll (r : ReaderObject) : List Storage → Allocator →
    Option ReleaseError × ReaderObject × Allocator
  | [], a => (none, r, a)
  | s :: rest, a =>
    match r.releaseOffsets s.offsets a with
    | (some e, r', a') => (some e, r', a')
    | (none, r', a') =>
      match r'.releaseWires s.wires a' with
      | (some e, r'', a'') => (some e, r'', a'')
      | (none, r'', a'') => r''.releaseAll rest a''

end ReaderObject

/-- The offset after the payload of a known field, which is a value or a
block of values. -/
def skipKnown (b : Buffer) (tag : Tag) (offset : Nat) : Except DecodeError Nat :=
  match tag.wire with
  | .bytes => b.skipBlock offset
  | .varint => b.skipVarint offset
  | wire => .error ⟨.unexpectedWireType tag.number wire, offset⟩

theorem le_of_skipKnown {b : Buffer} {tag : Tag} {offset next : Nat}
    (h : skipKnown b tag offset = .ok next) : offset ≤ next := by
  unfold skipKnown at h
  split at h
  · exact Buffer.le_of_skipBlock h
  · exact Buffer.le_of_skipVarint h
  · cases h

/-- The first field whose constant is the number. The constants of the fields
before it are looked up on the way. -/
def firstOfConstant (constant : FieldPlan → Except NameFault Int) (number : Nat) :
    List FieldPlan → Except NameFault (Option FieldPlan)
  | [] => .ok none
  | f :: rest =>
    match constant f with
    | .error e => .error e
    | .ok n => if n = (number : Int) then .ok (some f) else firstOfConstant constant number rest

namespace LoadedModule

/-- The attributes that hold the notes of a field. -/
def storage (M : LoadedModule) (m : MessagePlan) (f : FieldPlan) : Storage where
  offsets := M.ident m.readerName f.names.offsets
  wires := M.ident m.readerName f.names.wires

/-! ### The scan -/

/-- Where the scan refers to the constant of a field. Two of its variables have
no value before a field was recognised, which needs a constant. -/
def scanScope (m : MessagePlan) : MethodScope where
  owner := m.readerName
  locals := decodeLocals
  pending := ["length_result", "result"]

/-- The field that a number belongs to, by the constants of the fields. -/
def recognise (M : LoadedModule) (m : MessagePlan) (number : Nat) :
    Except NameFault (Option FieldPlan) :=
  firstOfConstant (M.constant (scanScope m)) number m.fields

/-- Handles the payload behind a tag: an occurrence of a known field is noted
before it is passed over, any other payload is only passed over. -/
def scanPayload (M : LoadedModule) (m : MessagePlan) (tag : Tag) (offset : Nat)
    (r : ReaderObject) (a : Allocator) : Except CodecError Nat × ReaderObject × Allocator :=
  match M.recognise m tag.number with
  | .error e => (.error (.name e), r, a)
  | .ok none => ((r.buffer.skipPayload offset tag.wire).mapError .decode, r, a)
  | .ok (some f) =>
    match r.note (M.storage m f) offset tag.wire a with
    | (some e, r', a') => (.error (.name e), r', a')
    | (none, r', a') => ((skipKnown r.buffer tag offset).mapError .decode, r', a')

end LoadedModule

theorem ok_of_mapError {ε ε' α : Type} {f : ε → ε'} {x : Except ε α} {v : α}
    (h : x.mapError f = .ok v) : x = .ok v := by
  cases x with
  | ok => exact congrArg Except.ok (Except.ok.inj h)
  | error => cases h

@[simp] theorem ReaderObject.buffer_acquire (r : ReaderObject) (s : Storage) (a : Allocator) :
    (r.acquire s a).1.buffer = r.buffer := by
  unfold acquire
  split <;> rfl

@[simp] theorem ReaderObject.buffer_push (r : ReaderObject) (s : Storage) (offset : Nat)
    (wire : WireType) : (r.push s offset wire).2.buffer = r.buffer := by
  unfold push
  split <;> rfl

@[simp] theorem ReaderObject.buffer_note (r : ReaderObject) (s : Storage) (offset : Nat)
    (wire : WireType) (a : Allocator) : (r.note s offset wire a).2.1.buffer = r.buffer := by
  simp [note]

namespace LoadedModule

section Payload

variable {M : LoadedModule} {m : MessagePlan} {tag : Tag} {offset : Nat} {r r' : ReaderObject}
  {a a' : Allocator}

/-- What can come of a payload. -/
theorem scanPayload_cases {res : Except CodecError Nat}
    (h : M.scanPayload m tag offset r a = (res, r', a')) :
    (∃ e, M.recognise m tag.number = .error e ∧ res = .error (.name e) ∧ r' = r ∧ a' = a) ∨
    (M.recognise m tag.number = .ok none ∧
      res = (r.buffer.skipPayload offset tag.wire).mapError .decode ∧ r' = r ∧ a' = a) ∨
    ∃ f, M.recognise m tag.number = .ok (some f) ∧
      ((∃ e, r.note (M.storage m f) offset tag.wire a = (some e, r', a') ∧
        res = .error (.name e)) ∨
      (r.note (M.storage m f) offset tag.wire a = (none, r', a') ∧
        res = (skipKnown r.buffer tag offset).mapError .decode)) := by
  unfold scanPayload at h
  split at h
  next e hrec =>
    cases h
    exact .inl ⟨e, hrec, rfl, rfl, rfl⟩
  next hrec =>
    cases h
    exact .inr (.inl ⟨hrec, rfl, rfl, rfl⟩)
  next f hrec =>
    refine .inr (.inr ⟨f, hrec, ?_⟩)
    split at h
    next e _ _ hn =>
      cases h
      exact .inl ⟨e, hn, rfl⟩
    next hn =>
      cases h
      exact .inr ⟨hn, rfl⟩

/-- Handling a payload never goes back. -/
theorem le_of_scanPayload {next : Nat}
    (h : M.scanPayload m tag offset r a = (.ok next, r', a')) : offset ≤ next := by
  rcases scanPayload_cases h with ⟨e, -, he, -⟩ | ⟨-, hres, -⟩ | ⟨f, -, ⟨e, -, he⟩ | ⟨-, hres⟩⟩
  · cases he
  · exact Buffer.le_of_skipPayload (ok_of_mapError hres.symm)
  · cases he
  · exact le_of_skipKnown (ok_of_mapError hres.symm)

theorem buffer_of_scanPayload {res : Except CodecError Nat}
    (h : M.scanPayload m tag offset r a = (res, r', a')) : r'.buffer = r.buffer := by
  have hnote (s : Storage) {e : Option NameFault} (hn : r.note s offset tag.wire a = (e, r', a')) :
      r'.buffer = r.buffer := by
    rw [← r.buffer_note s offset tag.wire a, hn]
  rcases scanPayload_cases h with ⟨e, -, -, rfl, -⟩ | ⟨-, -, rfl, -⟩ | ⟨f, -, ⟨e, hn, -⟩ | ⟨hn, -⟩⟩
  · rfl
  · rfl
  · exact hnote _ hn
  · exact hnote _ hn

end Payload

/-- Scans the records from `offset` to the end of the message. -/
def scan (M : LoadedModule) (m : MessagePlan) (offset : Nat) (r : ReaderObject) (a : Allocator) :
    Except CodecError Unit × ReaderObject × Allocator :=
  if offset < r.buffer.size then
    match _ht : r.buffer.readTag offset with
    | .error e => (.error (.decode e), r, a)
    | .ok tag =>
      match _hp : M.scanPayload m tag (offset + tag.size) r a with
      | (.error e, r', a') => (.error e, r', a')
      | (.ok next, r', a') => M.scan m next r' a'
  else (.ok (), r, a)
termination_by r.buffer.size - offset
decreasing_by
  have := Buffer.readTag_size_pos _ht
  have := le_of_scanPayload _hp
  rw [buffer_of_scanPayload _hp]
  omega

/-- Gives the storage of a reader back. -/
def close (M : LoadedModule) (m : MessagePlan) (r : ReaderObject) (a : Allocator) :
    Option ReleaseError × ReaderObject × Allocator :=
  r.releaseAll (m.fields.map (M.storage m)) a

/-- Whether a class that was made before the reader class hides `classmethod`.
Then `decode` is an object of that class. -/
def hidesDecode (M : LoadedModule) (m : MessagePlan) : Bool :=
  (M.plan.classes.takeWhile fun c => c.1 != m.readerName).any fun c =>
    M.normal c.1 == "classmethod"

/-- Scans a message. If it is malformed, what the scan took from the allocator
is given back. -/
def decode (M : LoadedModule) (m : MessagePlan) (data : Bytes) (a : Allocator) :
    Except CodecError ReaderObject × Allocator :=
  if M.hidesDecode m then (.error (.name .notCallable), a)
  else
    match M.scan m 0 { buffer := ⟨data⟩ } a with
    | (.ok (), r, a') => (.ok r, a')
    | (.error (.decode e), r, a') =>
      match M.close m r a' with
      | (none, _, a'') => (.error (.decode e), a'')
      | (some f, _, a'') => (.error (.release f), a'')
    | (.error e, _, a') => (.error e, a')

/-- A message is decoded by a scan that succeeds. -/
theorem scan_of_decode {M : LoadedModule} {m : MessagePlan} {data : Bytes} {r : ReaderObject}
    {a a' : Allocator} (hd : M.decode m data a = (.ok r, a')) :
    M.hidesDecode m = false ∧ M.scan m 0 { buffer := ⟨data⟩ } a = (.ok (), r, a') := by
  unfold decode at hd
  split at hd
  · cases hd
  next hfree =>
    refine ⟨by simpa using hfree, ?_⟩
    split at hd
    next hs =>
      cases hd
      exact hs
    next => split at hd <;> cases hd
    next => cases hd

/-! ### Accessors -/

/-- Where an accessor refers to the class of its enum. Three of its variables
have no value before the first block. -/
def accessorScope (m : MessagePlan) (afterBlock : Bool) : MethodScope where
  owner := m.readerName
  locals := accessorLocals
  pending := if afterBlock then [] else ["length_result", "offset", "end_offset"]

/-- What an accessor makes of an integer: a value of what the name of its enum
stands for. Anything but an enum is taken to refuse the integer. -/
def convert (M : LoadedModule) (scope : MethodScope) (f : FieldPlan) (v : Int) :
    Except NameFault EnumValue :=
  match M.refer scope f.enumClass with
  | .error e => .error e
  | .ok (some (.enum e)) => EnumValue.fromInt M.interpreter (M.members e) v
  | .ok _ => .error .notCallable

end LoadedModule

section Occurrences

variable (convert : Int → Except NameFault EnumValue)

/-- The values from `offset` to `stop`, in a block that starts at `start`. Each
one is converted before the next is read. -/
def convertPacked (b : Buffer) (start offset stop : Nat) : Except CodecError (List EnumValue) :=
  if offset < stop then
    match _h : b.readVarint offset with
    | .error e => .error (.decode e)
    | .ok r =>
      match convert (Varint.toInt32 r.value) with
      | .error e => .error (.name e)
      | .ok value =>
        match convertPacked b start (offset + r.size) stop with
        | .ok values => .ok (value :: values)
        | .error e => .error e
  else if offset = stop then .ok []
  else .error (.decode ⟨.packedOverrun, start⟩)
termination_by stop - offset
decreasing_by
  have := Buffer.readVarint_size_pos _h
  omega

/-- The values of the block whose length prefix stands at `start`. -/
def convertBlock (b : Buffer) (start : Nat) : Except CodecError (List EnumValue) :=
  match b.readVarint start with
  | .error e => .error (.decode e)
  | .ok length =>
    match b.advance (start + length.size) length.value with
    | .ok stop => convertPacked convert b start (start + length.size) stop
    | .error e => .error (.decode e)

/-- The value that stands at `start` on its own. -/
def convertSingle (b : Buffer) (start : Nat) : Except CodecError (List EnumValue) :=
  match b.readInt32 start with
  | .error e => .error (.decode e)
  | .ok r =>
    match convert r.value with
    | .ok value => .ok [value]
    | .error e => .error (.name e)

end Occurrences

/-- The values of several occurrences, in order. Whether there was a block by
now makes a difference to the names that the conversion refers to. -/
def convertOccurrences (convert : Bool → Int → Except NameFault EnumValue) (b : Buffer) :
    List (Nat × WireType) → Bool → Except CodecError (List EnumValue)
  | [], _ => .ok []
  | (start, wire) :: rest, afterBlock =>
    let part :=
      if wire = .bytes then convertBlock (convert true) b start
      else convertSingle (convert afterBlock) b start
    match part with
    | .error e => .error e
    | .ok values =>
      match convertOccurrences convert b rest (afterBlock || wire == .bytes) with
      | .ok more => .ok (values ++ more)
      | .error e => .error e

namespace LoadedModule

/-- The values of a field whose offsets were noted. Pairing them with their
layouts fails if a class hides `zip`, or if there is no list of layouts. -/
def replay (M : LoadedModule) (m : MessagePlan) (f : FieldPlan) (r : ReaderObject)
    (offsets : List Nat) : Except CodecError (List EnumValue) :=
  match M.class? "zip", r.wires (M.storage m f).wires with
  | none, some wires =>
    convertOccurrences (fun afterBlock => M.convert (accessorScope m afterBlock) f) r.buffer
      (offsets.zip wires) false
  | _, _ => .error (.name .notCallable)

/-- The values of a field, in a list from the allocator. If they are malformed,
the list is given back. -/
def get (M : LoadedModule) (m : MessagePlan) (f : FieldPlan) (r : ReaderObject) (a : Allocator) :
    Except CodecError (List EnumValue) × Allocator :=
  match r.offsets (M.storage m f).offsets with
  | none => (.ok [], a.newList)
  | some offsets =>
    match M.replay m f r offsets with
    | .ok values => (.ok values, a.newList)
    | .error (.decode e) =>
      match a.newList.release with
      | .ok a' => (.error (.decode e), a')
      | .error f => (.error (.release f), a.newList)
    | .error e => (.error e, a.newList)

end LoadedModule
end WireSchema
