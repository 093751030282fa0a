/-
# Writing a message

A field without values is not written. A single value is written behind its
tag; two or more are packed into one block. The size of a message is
predicted without writing it.

The methods refer to the class of field numbers by name, and call `len` and
`int`, which a class of the module may hide. An exception ends the method; what
was appended to the writer until then stays.

Key definitions: `MessageObject`, `FieldShape`, `LoadedModule.shapeOf`,
`LoadedModule.calcSize`, `LoadedModule.encodeTo`, `LoadedModule.encode`.
-/

import WireSchema.Codec.Scope
import WireSchema.Wire.Writer

namespace WireSchema

/-- The predicted size of packed values. -/
def packedSize : List Int → Nat
  | [] => 0
  | v :: rest => int32Size v + packedSize rest

/-- An object of a writer class: what its attributes were set to, in order. -/
structure MessageObject where
  attributes : List (String × Option (List Int)) := []
deriving DecidableEq, Repr

/-- What an attribute holds, if it was set to a list. -/
def MessageObject.value (o : MessageObject) (name : String) : Option (List Int) :=
  (o.attributes.reverse.lookup name).getD none

/-- How a field is written. -/
inductive FieldShape where
  | absent
  | single (v : Int)
  | packed (values : List Int)
deriving DecidableEq, Repr

/-- The length of a list decides how it is written. -/
def FieldShape.ofValues : List Int → FieldShape
  | [] => absent
  | [v] => single v
  | values => packed values

namespace LoadedModule

/-- The object of a writer class whose fields are set to the given values. -/
def object (M : LoadedModule) (m : MessagePlan) (fields : List (String × Option (List Int))) :
    MessageObject :=
  ⟨fields.map fun (name, values) => (M.ident m.name name, values)⟩

/-- The values that the methods of the writer class find in a field. -/
def valuesOf (M : LoadedModule) (m : MessagePlan) (o : MessageObject) (f : FieldPlan) :
    Option (List Int) :=
  o.value (M.ident m.name f.names.writerField)

/-! ### Built-in functions -/

/-- Whether `len` counts the elements of a list. A class that hides it either
fails or makes an object, which is equal to no number. -/
def lengthCounts (M : LoadedModule) (values : List Int) : Except NameFault Bool :=
  match M.class? "len" with
  | none => .ok true
  | some (.enum e) =>
    .error (M.noMember e ("[" ++ ", ".intercalate (values.map toString) ++ "]"))
  | some c => if c.takesOne then .ok false else .error .notCallable

/-- What `int` makes of a value: an integer or, if a class hides it, perhaps
an object (`none`). -/
def integerOf (M : LoadedModule) (v : Int) : Except NameFault (Option Int) :=
  match M.class? "int" with
  | none => .ok (some v)
  | some (.enum e) =>
    if v ∈ (M.members e).map (·.2) then .ok (some v) else .error (M.noMember e (toString v))
  | some c => if c.takesOne then .ok none else .error .notCallable

/-- The size of a value. An object cannot be compared with zero. -/
def valueSize (M : LoadedModule) (v : Int) : Except NameFault Nat :=
  match M.integerOf v with
  | .ok (some v) => .ok (int32Size v)
  | .ok none => .error .notCallable
  | .error e => .error e

/-- The size of the values of a block. -/
def blockSize (M : LoadedModule) : List Int → Except NameFault Nat
  | [] => .ok 0
  | v :: rest =>
    match M.valueSize v with
    | .error e => .error e
    | .ok size =>
      match M.blockSize rest with
      | .ok more => .ok (size + more)
      | .error e => .error e

/-- How the values of a field are written. What is equal to no number is
neither 0 nor 1. -/
def shapeOf (M : LoadedModule) : Option (List Int) → Except NameFault FieldShape
  | none => .ok .absent
  | some values =>
    match M.lengthCounts values with
    | .ok true => .ok (.ofValues values)
    | .ok false => .ok (.packed values)
    | .error e => .error e

/-! ### Methods -/

/-- Where a method of the writer class refers to the constant of a field. Two
of its variables have no value before the first block. -/
def writerScope (m : MessagePlan) (locals : List String) (afterBlock : Bool) : MethodScope where
  owner := m.name
  locals
  pending := if afterBlock then [] else ["packed_size", "v"]

/-- The predicted size of a field, and whether there was a block by now. -/
def fieldSize (M : LoadedModule) (m : MessagePlan) (f : FieldPlan) (values : Option (List Int))
    (afterBlock : Bool) : Except NameFault (Nat × Bool) :=
  match M.shapeOf values with
  | .error e => .error e
  | .ok .absent => .ok (0, afterBlock)
  | .ok (.single v) =>
    match M.constant (writerScope m sizeLocals afterBlock) f, M.valueSize v with
    | .ok number, .ok size => .ok (tagSize number + size, afterBlock)
    | .error e, _ => .error e
    | _, .error e => .error e
  | .ok (.packed values) =>
    match M.blockSize values, M.constant (writerScope m sizeLocals true) f with
    | .ok size, .ok number => .ok (tagSize number + Varint.size size + size, true)
    | .error e, _ => .error e
    | _, .error e => .error e

/-- The predicted size of fields. -/
def fieldSizes (M : LoadedModule) (m : MessagePlan) (o : MessageObject) :
    List FieldPlan → Bool → Except NameFault Nat
  | [], _ => .ok 0
  | f :: rest, afterBlock =>
    match M.fieldSize m f (M.valuesOf m o f) afterBlock with
    | .error e => .error e
    | .ok (size, afterBlock) =>
      match M.fieldSizes m o rest afterBlock with
      | .ok more => .ok (size + more)
      | .error e => .error e

/-- The predicted size of a message. -/
def calcSize (M : LoadedModule) (m : MessagePlan) (o : MessageObject) : Except NameFault Nat :=
  M.fieldSizes m o m.fields false

/-- Appends a field, and tells whether there was a block by now. An object in
place of the value is noticed after the tag was written. -/
def writeField (M : LoadedModule) (m : MessagePlan) (f : FieldPlan) (values : Option (List Int))
    (afterBlock : Bool) (w : Writer) : Except NameFault Bool × Writer :=
  match M.shapeOf values with
  | .error e => (.error e, w)
  | .ok .absent => (.ok afterBlock, w)
  | .ok (.single v) =>
    match M.constant (writerScope m encodeLocals afterBlock) f, M.integerOf v with
    | .ok number, .ok (some v) => (.ok afterBlock, w.appendInt32 number v)
    | .ok number, .ok none => (.error .notCallable, w.appendTag number WireType.varint.code)
    | .error e, _ => (.error e, w)
    | _, .error e => (.error e, w)
  | .ok (.packed values) =>
    match M.blockSize values, M.constant (writerScope m encodeLocals true) f with
    | .ok size, .ok number =>
      (.ok true, values.foldl Writer.appendInt32Value (w.appendBytesTag number size))
    | .error e, _ => (.error e, w)
    | _, .error e => (.error e, w)

/-- Appends fields in order. -/
def writeFields (M : LoadedModule) (m : MessagePlan) (o : MessageObject) :
    List FieldPlan → Bool → Writer → Except NameFault Unit × Writer
  | [], _, w => (.ok (), w)
  | f :: rest, afterBlock, w =>
    match M.writeField m f (M.valuesOf m o f) afterBlock w with
    | (.ok afterBlock, w') => M.writeFields m o rest afterBlock w'
    | (.error e, w') => (.error e, w')

/-- Appends a message. -/
def encodeTo (M : LoadedModule) (m : MessagePlan) (o : MessageObject) (w : Writer) :
    Except NameFault Unit × Writer :=
  M.writeFields m o m.fields false w

/-- The bytes of a message. -/
def encode (M : LoadedModule) (m : MessagePlan) (o : MessageObject) : Except NameFault Bytes :=
  match M.encodeTo m o {} with
  | (.ok (), w) => .ok w.bytes
  | (.error e, _) => .error e

end LoadedModule
end WireSchema
