/-
# The classes of a message

A message has three classes: one that writes it, one that holds the field
numbers, and one that reads it. Its fields take their identifiers from a
registry that holds the members these classes have anyway and every class
name of the module so far. Fields that are not repeated enums are reported
and left out. For the others the builders are started, resolved, asked for
their plans and closed, each for all fields before the next.

Key definitions: `reservedMembers`, `MessagePlan`, `MessagePlan.startBuilders`,
`MessagePlan.planFields`, `MessagePlan.build`.
-/

import WireSchema.Plan.EnumScope

namespace WireSchema

/-- The names that no field may take: what the module imports, and the
members that every class has. -/
def reservedMembers : List String :=
  moduleImports ++
    ["buf", "calc_protobuf_size", "close", "decode", "encode", "encode_to", "_allocator"]

/-- The classes of a message. -/
structure MessagePlan where
  name : String
  wireName : String
  readerName : String
  fields : List FieldPlan
deriving DecidableEq, Repr

namespace MessagePlan

/-- Readers need an allocator once they have a field. -/
def needsAllocator (m : MessagePlan) : Bool := !m.fields.isEmpty

/-- The text that each field contributes to one place. -/
def fragments (m : MessagePlan) (place : Fragment) : List String :=
  m.fields.map (·.fragment place)

/-- Starts a builder for each field that has code, in order. -/
def startBuilders (wireClass writerClass : String) :
    List Field → Registry → Gen (List (Field × FieldBuilder))
  | [], _ => pure []
  | f :: rest, names =>
    match FieldBuilder.create f wireClass writerClass names with
    | .ok b names' => do
      let more ← startBuilders wireClass writerClass rest names'
      return (f, b) :: more
    | .error (.unsupported e) names' => do
      Gen.report .warning (e.text ++ "; skipping field")
      startBuilders wireClass writerClass rest names'
    | .error (.name e) _ => throw (.name e)

/-- Gives a builder the class of its enum. -/
def resolveBuilder (scope : EnumScope) (writerClass : String) (f : Field) (b : FieldBuilder) :
    Except GenError FieldBuilder := do
  let enumClass ← scope.resolve f.typeName writerClass f.name
  (b.resolve (some enumClass)).mapError .builder

/-- Gives each builder the class of its enum, in order, until one cannot have
it. The builders are returned as this leaves them, also after a failure. -/
def resolveBuilders (scope : EnumScope) (writerClass : String) :
    List (Field × FieldBuilder) → Except GenError Unit × List FieldBuilder
  | [] => (.ok (), [])
  | (f, b) :: rest =>
    match resolveBuilder scope writerClass f b with
    | .error e => (.error e, b :: rest.map (·.2))
    | .ok resolved =>
      let (outcome, more) := resolveBuilders scope writerClass rest
      (outcome, resolved :: more)

/-- Plans the fields of the builders. Whether or not this succeeds, the
builders are closed in the end, and an error then takes the place of the
outcome. -/
def planFields (scope : EnumScope) (writerClass : String)
    (builders : List (Field × FieldBuilder)) : Except GenError (List FieldPlan) := do
  let (outcome, left) := resolveBuilders scope writerClass builders
  let fields := outcome.bind fun _ => (left.mapM FieldBuilder.plan).mapError .builder
  let _ ← (left.mapM FieldBuilder.close).mapError GenError.builder
  fields

/-- Claims the classes of a message and plans its fields. -/
def build (scope : EnumScope) (package : Option String) (options : Options)
    (message : MessageDecl) : Gen MessagePlan := do
  let fullName := dropDots message.fullName
  let name ← Gen.claim fullName (flatName message.fullName package)
  let wireName ← Gen.claim fullName (name ++ options.wireSuffix)
  let readerName ← Gen.claim fullName (name ++ options.readerSuffix)
  let taken ← Gen.takenNames
  let builders ← startBuilders wireName name message.fields ⟨reservedMembers ++ taken⟩
  let fields ← Gen.ofExcept (planFields scope name builders)
  Gen.report .debug ("Generated " ++ name ++ " with " ++ toString fields.length ++ " field(s)")
  return { name, wireName, readerName, fields }

end MessagePlan
end WireSchema
