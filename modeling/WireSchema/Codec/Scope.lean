/-
# What the names of a module stand for

The methods of a generated class refer to classes, attributes and built-in
functions by name, and a name need not stand for what it was written for. A
name that the method itself binds is a local variable. A name with two
underscores in front is private: inside a class it is another name, with the
class in front. A class that is named like a built-in function takes its
place. So each reference of the text is looked up here as the interpreter
looks it up, and what happens to a reference that leads elsewhere is a
`NameFault`.

The classes are those of a module that was imported (`LoadedModule.imported`):
every identifier is well formed, every annotation has a value, and every enum
accepted its members. Left out are declarations with a name that the interpreter
has a use of its own for (`__init__` and `__builtins__`, and `_missing_` in an
enum), and the limits of an interpreter. What interpreters differ in is a
parameter (`Interpreter`).

Key definitions: `NameFault`, `mangle`, `ModuleClass`, `Interpreter`,
`LoadedModule`, `LoadedModule.ident`, `LoadedModule.class?`,
`LoadedModule.refer`, `LoadedModule.constant`.
-/

import WireSchema.Plan.Module

namespace WireSchema

/-- What comes of a name that does not stand for what it was written for. -/
inductive NameFault where
  /-- What the name stands for has no such attribute. -/
  | noAttribute
  /-- What the name stands for cannot be called, or not be used like this. -/
  | notCallable
  /-- An enum was asked for a value that none of its members has. -/
  | noMember (value className : String)
  /-- The name is that of a local variable without a value so far. -/
  | unbound
  /-- The name stands for nothing. -/
  | undefined
deriving DecidableEq, Repr

/-- The class of the exception that is raised. -/
def NameFault.kind : NameFault → String
  | noAttribute => "AttributeError"
  | notCallable => "TypeError"
  | noMember .. => "ValueError"
  | unbound => "UnboundLocalError"
  | undefined => "NameError"

/-- What the exception says about a value. The other texts differ between
interpreters and are left out. -/
def NameFault.text? : NameFault → Option String
  | noMember value className => some (value ++ " is not a valid " ++ className)
  | _ => none

/-! ### Private names -/

/-- Whether a class makes the name its own: it starts with two underscores and
does not end with two. -/
def isPrivate (name : String) : Bool :=
  ['_', '_'].isPrefixOf name.toList && !(['_', '_'].isSuffixOf name.toList)

/-- What a name is inside the class `owner`. A private name gets the class in
front, without the underscores that the class starts with. A class that is
named by underscores only has no private names. -/
def mangle (owner name : String) : String :=
  let base := owner.toList.dropWhile (· == '_')
  if isPrivate name && !base.isEmpty then String.ofList ('_' :: base ++ name.toList) else name

/-! ### Classes -/

/-- A class of a module. -/
inductive ModuleClass where
  | enum (e : EnumPlan)
  /-- The class of a message that holds the field numbers. -/
  | numbers (m : MessagePlan)
  | writer (m : MessagePlan)
  | reader (m : MessagePlan)
deriving DecidableEq, Repr

/-- Whether an object of the class can be made from a single argument. Fields
of a writer may be given; a reader asks for an allocator beside the message if
it has fields. An enum makes no objects. -/
def ModuleClass.takesOne : ModuleClass → Bool
  | enum _ | numbers _ => false
  | writer m => !m.fields.isEmpty
  | reader m => m.fields.isEmpty

/-- The classes of a module with their names, in the order in which they are
made. -/
def ModulePlan.classes (p : ModulePlan) : List (String × ModuleClass) :=
  p.enums.map (fun e => (e.className, .enum e)) ++
    p.messages.flatMap fun m =>
      [(m.wireName, .numbers m), (m.name, .writer m), (m.readerName, .reader m)]

/-- What interpreters differ in. -/
structure Interpreter where
  /-- Whether a module can be imported. -/
  imports : ModulePlan → Bool := fun _ => true
  /-- The form in which identifiers are compared. Names of ASCII characters are
  in it already. -/
  normal : String → String := id
  /-- Whether an enum class makes a member of a name. Names that start with two
  underscores may become something else. -/
  makesMember : (className name : String) → Bool := fun _ _ => true
  /-- Whether an enum without members refuses to be called at all. If not, it
  reports that the value is none of its members. -/
  refusesMemberless : Bool := false

/-- A module that was generated for a file and imported. -/
structure LoadedModule where
  file : SchemaFile
  options : Options := {}
  plan : ModulePlan
  generated : (ModulePlan.generate file options).1 = .ok plan
  interpreter : Interpreter := {}
  imported : interpreter.imports plan = true := by rfl

namespace LoadedModule

/-- An identifier as it is compared. -/
def normal (M : LoadedModule) (name : String) : String := M.interpreter.normal name

/-- What an identifier of the text is inside the class `owner`. -/
def ident (M : LoadedModule) (owner name : String) : String :=
  mangle (M.normal owner) (M.normal name)

/-- The class that goes by a name in the module. Of several classes with one
name the last one counts. -/
def class? (M : LoadedModule) (name : String) : Option ModuleClass :=
  (M.plan.classes.reverse.find? fun c => M.normal c.1 == name).map (·.2)

/-! ### Methods

What a method binds. The statements of its fields are part of the method. -/

end LoadedModule

/-- What an accessor binds. -/
def accessorLocals : List String :=
  ["self", "allocator", "result", "start_offset", "wire_type", "length_result", "offset",
   "end_offset", "value_result"]

/-- What the method that sizes a message binds: its own names, and those that
the statements of a field bind. -/
def sizeLocals : List String := ["self", "res"] ++ ["arr", "packed_size", "v"]

/-- What the method that writes a message binds, the statements of its fields
included. -/
def encodeLocals : List String := ["self", "target"] ++ ["arr", "packed_size", "v"]

/-- What the method that scans a message binds, the clauses of its fields
included. -/
def decodeLocals : List String :=
  ["cls", "data", "allocator", "buf", "res", "offset", "tag"] ++ ["length_result", "result"]

/-- Where a reference stands: in a method of a class, which binds some names,
not all of which have a value yet. -/
structure MethodScope where
  owner : String
  locals : List String
  pending : List String := []
deriving DecidableEq, Repr

namespace LoadedModule

/-- What a name stands for in a method: a class, or (`none`) the value of a
local variable. -/
def refer (M : LoadedModule) (scope : MethodScope) (name : String) :
    Except NameFault (Option ModuleClass) :=
  let target := M.ident scope.owner name
  if target ∈ scope.pending then .error .unbound
  else if target ∈ scope.locals then .ok none
  else
    match M.class? target with
    | some c => .ok (some c)
    | none => .error .undefined

/-- The members of an enum class. -/
def members (M : LoadedModule) (e : EnumPlan) : List (String × Int) :=
  (e.members.filter fun x => M.interpreter.makesMember e.className x.1).map fun x =>
    (M.ident e.className x.1, x.2)

/-- The integer that an attribute of a class is. In a class of field numbers
the last constant of a name counts. -/
def attribute? (M : LoadedModule) (c : ModuleClass) (name : String) : Option Int :=
  match c with
  | .enum e => (M.members e).lookup name
  | .numbers m =>
    (m.fields.reverse.find? fun f => M.ident m.wireName f.names.wireConst == name).map (·.number)
  | .writer _ | .reader _ => none

/-- The constant of a field as a method refers to it. -/
def constant (M : LoadedModule) (scope : MethodScope) (f : FieldPlan) : Except NameFault Int :=
  match M.refer scope f.names.wireClass with
  | .error e => .error e
  | .ok none => .error .noAttribute
  | .ok (some c) =>
    match M.attribute? c (M.ident scope.owner f.names.wireConst) with
    | some number => .ok number
    | none => .error .noAttribute

/-- What an enum class reports for a value that none of its members has. -/
def noMember (M : LoadedModule) (e : EnumPlan) (value : String) : NameFault :=
  if M.interpreter.refusesMemberless && (M.members e).isEmpty then .notCallable
  else .noMember value e.className

end LoadedModule
end WireSchema
