/-
# Using the classes of a module

A session uses the classes of a generated module: it writes messages, reads
them, calls accessors, and gives lists back to allocators. Classes, fields
and accessors go by their names in the text of the module, notes by the names
of the attributes that hold them.

The methods that a command calls are those of `Codec.Encode` and
`Codec.Reader`, so what their names stand for is looked up as `Codec.Scope`
says, and a command fails with the exception that the method ends with. Not
covered are sessions that change classes or attributes from outside, and
modules that cannot be imported.

Key definitions: `Session`, `Command`, `Reply`, `Session.run`.
-/

import WireSchema.Codec.Encode
import WireSchema.Codec.Reader

namespace WireSchema

/-- A value to be written: an integer, or a member of an enum class. -/
inductive Operand where
  | number (value : Int)
  | member (enumClass name : String)
deriving DecidableEq, Repr

/-- What a session can be told to do. -/
inductive Command where
  /-- Encodes a message of the class with the given fields set. -/
  | encode (messageClass : String) (fields : List (String × Option (List Operand)))
  /-- Appends such a message to the session's writer. -/
  | encodeTo (messageClass : String) (fields : List (String × Option (List Operand)))
  /-- Scans data, or else the bytes encoded last. -/
  | decode (readerClass : String) (data : Option Bytes) (allocator : Nat)
  /-- Calls an accessor of a reader. -/
  | get (reader : Nat) (accessor : String) (allocator : Nat)
  /-- Looks at the notes of a reader. -/
  | storage (reader : Nat) (offsets wires : String)
  /-- Gives a list that an accessor returned back. -/
  | release (list allocator : Nat)
  /-- Closes a reader. -/
  | close (reader : Nat)
deriving DecidableEq, Repr

/-- What a session answers. -/
inductive Reply where
  | encoded (bytes : Bytes) (size : Nat)
  | written (bytes : Bytes)
  | reader (index : Nat) (needsAllocator : Bool)
  | values (list : Nat) (values : List EnumValue)
  | storage (offsets wires : Option (List Nat))
  | done
deriving DecidableEq, Repr

/-- Why a command fails. -/
inductive SessionError where
  /-- There is no such reader, list, allocator or attribute. -/
  | noSuchHandle
  /-- The module has no class of that name, or an enum class no such member. -/
  | unknownName
  | codec (e : CodecError)
deriving DecidableEq, Repr

/-- A reader, the message it reads, and the allocator its notes came from. -/
structure OpenReader where
  message : MessagePlan
  allocator : Nat
  reader : ReaderObject

/-- The state of a session. -/
structure Session where
  loaded : LoadedModule
  allocators : List Allocator
  writer : Writer := {}
  lastEncoded : Bytes := []
  readers : List OpenReader := []
  lists : List (List EnumValue) := []

namespace LoadedModule

/-- The enum whose class goes by that name. Of several classes with one name
the last one counts. -/
def enumNamed? (M : LoadedModule) (enumClass : String) : Option EnumPlan :=
  M.plan.enums.reverse.find? (·.className == enumClass)

/-- The integer that an operand stands for. A member that its class does not
have stands for none. -/
def operandValue? (M : LoadedModule) : Operand → Option Int
  | .number value => some value
  | .member enumClass name => (M.enumNamed? enumClass).bind fun e => (M.members e).lookup name

/-- The integers that are to be set in one field, if each operand stands for
one. -/
def assignedValues? (M : LoadedModule) : Option (List Operand) → Option (Option (List Int))
  | none => some none
  | some operands => (operands.mapM M.operandValue?).map some

/-- The integers that are to be set, field by field, if each operand stands
for one. -/
def assignment? (M : LoadedModule) (fields : List (String × Option (List Operand))) :
    Option (List (String × Option (List Int))) :=
  fields.mapM fun (name, operands) => (M.assignedValues? operands).map (name, ·)

end LoadedModule

namespace OpenReader

/-- The field with an accessor of that name. -/
def accessor? (r : OpenReader) (name : String) : Option FieldPlan :=
  r.message.fields.find? (·.names.readerMethod == name)

/-- The notes that an attribute of the reader holds: offsets, or the codes of
layouts. -/
def attribute? (r : OpenReader) (M : LoadedModule) (name : String) : Option (Option (List Nat)) :=
  r.message.fields.findSome? fun f =>
    let s := M.storage r.message f
    if s.offsets == name then some (r.reader.offsets name)
    else if s.wires == name then some ((r.reader.wires name).map (·.map WireType.code))
    else none

end OpenReader

namespace Session

/-- A session on a module with so many allocators, none of which has lists
outstanding. -/
def start (loaded : LoadedModule) (allocators : Nat) : Session :=
  { loaded, allocators := List.replicate allocators {} }

/-- The lists outstanding at each allocator. -/
def outstanding (s : Session) : List Nat := s.allocators.map (·.outstanding)

/-- The message whose writer class goes by that name. -/
def writerClass? (s : Session) (name : String) : Option MessagePlan :=
  s.loaded.plan.messages.find? (·.name == name)

/-- The message whose reader class goes by that name. -/
def readerClass? (s : Session) (name : String) : Option MessagePlan :=
  s.loaded.plan.messages.find? (·.readerName == name)

/-- An allocator for a message. One without fields takes nothing from any
allocator, so it can do with one that is not there. -/
def allocatorFor? (s : Session) (m : MessagePlan) (k : Nat) : Option Allocator :=
  match s.allocators[k]? with
  | some a => some a
  | none => if m.needsAllocator then none else some {}

/-- An object of the writer class with the given fields set. -/
def object (s : Session) (messageClass : String)
    (fields : List (String × Option (List Operand))) :
    Except SessionError (MessagePlan × MessageObject) :=
  match s.writerClass? messageClass, s.loaded.assignment? fields with
  | some m, some values => .ok (m, s.loaded.object m values)
  | _, _ => .error .unknownName

/-- Encodes a message and predicts its size. -/
def encode (s : Session) (m : MessagePlan) (o : MessageObject) :
    Except SessionError Reply × Session :=
  match s.loaded.encode m o, s.loaded.calcSize m o with
  | .ok bytes, .ok size => (.ok (.encoded bytes size), { s with lastEncoded := bytes })
  | .error e, _ => (.error (.codec (.name e)), s)
  | _, .error e => (.error (.codec (.name e)), s)

/-- Appends a message to the session's writer. -/
def encodeTo (s : Session) (m : MessagePlan) (o : MessageObject) :
    Except SessionError Reply × Session :=
  match s.loaded.encodeTo m o s.writer with
  | (.ok (), writer) =>
    (.ok (.written writer.bytes), { s with writer, lastEncoded := writer.bytes })
  | (.error e, writer) => (.error (.codec (.name e)), { s with writer })

/-- Scans data with one of the allocators. -/
def decode (s : Session) (m : MessagePlan) (data : Bytes) (k : Nat) (a : Allocator) :
    Except SessionError Reply × Session :=
  match s.loaded.decode m data a with
  | (.ok r, a') =>
    (.ok (.reader s.readers.length m.needsAllocator),
      { s with allocators := s.allocators.set k a', readers := s.readers ++ [⟨m, k, r⟩] })
  | (.error e, a') => (.error (.codec e), { s with allocators := s.allocators.set k a' })

/-- Calls an accessor with one of the allocators. -/
def get (s : Session) (r : OpenReader) (f : FieldPlan) (k : Nat) (a : Allocator) :
    Except SessionError Reply × Session :=
  match s.loaded.get r.message f r.reader a with
  | (.ok values, a') =>
    (.ok (.values s.lists.length values),
      { s with allocators := s.allocators.set k a', lists := s.lists ++ [values] })
  | (.error e, a') => (.error (.codec e), { s with allocators := s.allocators.set k a' })

/-- Closes a reader. -/
def close (s : Session) (i : Nat) (r : OpenReader) (a : Allocator) :
    Except SessionError Reply × Session :=
  match s.loaded.close r.message r.reader a with
  | (e, reader, a') =>
    (match e with
      | none => .ok .done
      | some e => .error (.codec (.release e)),
     { s with
       allocators := s.allocators.set r.allocator a'
       readers := s.readers.set i { r with reader } })

/-- Carries out a command. -/
def run (s : Session) : Command → Except SessionError Reply × Session
  | .encode name fields =>
    match s.object name fields with
    | .error e => (.error e, s)
    | .ok (m, o) => s.encode m o
  | .encodeTo name fields =>
    match s.object name fields with
    | .error e => (.error e, s)
    | .ok (m, o) => s.encodeTo m o
  | .decode name data k =>
    match s.readerClass? name with
    | none => (.error .unknownName, s)
    | some m =>
      match s.allocatorFor? m k with
      | some a => s.decode m (data.getD s.lastEncoded) k a
      | none => (.error .noSuchHandle, s)
  | .get i accessor k =>
    match s.readers[i]?, s.allocators[k]? with
    | some r, some a =>
      match r.accessor? accessor with
      | some f => s.get r f k a
      | none => (.error .noSuchHandle, s)
    | _, _ => (.error .noSuchHandle, s)
  | .storage i offsets wires =>
    match s.readers[i]? with
    | none => (.error .noSuchHandle, s)
    | some r =>
      match r.attribute? s.loaded offsets, r.attribute? s.loaded wires with
      | some offsets, some wires => (.ok (.storage offsets wires), s)
      | _, _ => (.error .noSuchHandle, s)
  | .release i k =>
    match s.lists[i]?, s.allocators[k]? with
    | some _, some a =>
      match a.release with
      | .ok a' =>
        (.ok .done, { s with allocators := s.allocators.set k a', lists := s.lists.set i [] })
      | .error e => (.error (.codec (.release e)), s)
    | _, _ => (.error .noSuchHandle, s)
  | .close i =>
    match s.readers[i]? with
    | none => (.error .noSuchHandle, s)
    | some r =>
      match s.allocatorFor? r.message r.allocator with
      | some a => s.close i r a
      | none => (.error .noSuchHandle, s)

end Session
end WireSchema
