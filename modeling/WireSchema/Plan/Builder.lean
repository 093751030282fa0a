/-
# From a field to its plan

A builder holds the identifiers of a field while its enum is still unknown.
It is resolved to a class name, asked for text, and closed in the end; asking
too early, or after the end, is an error that changes nothing.

Key definitions: `FieldBuilder`, `FieldBuilder.create`,
`FieldBuilder.resolve`, `FieldBuilder.plan`, `FieldBuilder.emit`,
`FieldBuilder.close`, `CodegenError`.
-/

import WireSchema.Plan.Field
import WireSchema.Schema

namespace WireSchema

/-- A builder was used out of order. -/
inductive BuilderError where
  | usedAfterClose
  | closedTwice
  | unresolved (writerClass writerField : String)
deriving DecidableEq, Repr

/-- The text of the error. -/
def BuilderError.message : BuilderError → String
  | usedAfterClose => "field generator used after close()"
  | closedTwice => "close() called twice"
  | unresolved writerClass writerField =>
    "enum type of field '" ++ writerClass ++ "." ++ writerField ++ "' is not resolved"

/-- Why no code can be produced for a field. -/
inductive CodegenProblem where
  /-- The field's enum is not declared in its file. -/
  | undefinedEnum (typeName : String)
  /-- Only repeated enums have code. -/
  | unsupportedField (label : Label) (type : FieldType)
deriving DecidableEq, Repr

/-- The text of the problem. -/
def CodegenProblem.message : CodegenProblem → String
  | undefinedEnum typeName => "enum type '" ++ typeName ++ "' is not defined in this file"
  | unsupportedField label type =>
    "no generator for '" ++ label.word ++ " " ++ type.label ++ "' fields"

/-- A problem, and the message and field it arose in. -/
structure CodegenError where
  problem : CodegenProblem
  message : String
  field : String
deriving DecidableEq, Repr

/-- The text of the error. -/
def CodegenError.text (e : CodegenError) : String :=
  "codegen error: " ++ e.problem.message ++ " (in " ++ e.message ++ "." ++ e.field ++ ")"

/-- How far a builder got. -/
inductive BuilderPhase where
  | active (names : FieldNames) (enumClass : Option String)
  | closed
deriving DecidableEq, Repr

/-- A field on its way to a plan. -/
structure FieldBuilder where
  number : Int
  writerClass : String
  phase : BuilderPhase
deriving DecidableEq, Repr

/-- Why a field gets no builder. -/
inductive FieldError where
  | name (e : NameError)
  | unsupported (e : CodegenError)
deriving DecidableEq, Repr

namespace FieldBuilder

/-- Starts a builder: its identifiers are taken once and for all. -/
def new (fieldName : String) (number : Int) (wireClass writerClass : String) :
    Naming FieldBuilder := do
  let names ← FieldNames.derive fieldName wireClass
  return { number, writerClass, phase := .active names none }

/-- Starts a builder for a declared field. Other fields than repeated enums
are refused and take no identifier. -/
def create (f : Field) (wireClass writerClass : String) :
    EStateM FieldError Registry FieldBuilder := fun r =>
  if f.isRepeatedEnum then
    match new f.name f.number wireClass writerClass r with
    | .ok b r' => .ok b r'
    | .error e r' => .error (.name e) r'
  else
    .error (.unsupported ⟨.unsupportedField f.label f.type, writerClass, f.name⟩) r

/-- The identifiers. -/
def names (b : FieldBuilder) : Except BuilderError FieldNames :=
  match b.phase with
  | .active names _ => .ok names
  | .closed => .error .usedAfterClose

/-- The class of the field's enum as far as it is known. -/
def enumClass? (b : FieldBuilder) : Option String :=
  match b.phase with
  | .active _ enumClass => enumClass
  | .closed => none

/-- Sets the class of the field's enum, or forgets it. -/
def resolve (b : FieldBuilder) (enumClass : Option String) : Except BuilderError FieldBuilder :=
  match b.phase with
  | .active names _ => .ok { b with phase := .active names enumClass }
  | .closed => .error .usedAfterClose

/-- Ends the builder's life. -/
def close (b : FieldBuilder) : Except BuilderError FieldBuilder :=
  match b.phase with
  | .active _ _ => .ok { b with phase := .closed }
  | .closed => .error .closedTwice

/-- The finished plan. -/
def plan (b : FieldBuilder) : Except BuilderError FieldPlan :=
  match b.phase with
  | .active names (some enumClass) => .ok { names, number := b.number, enumClass }
  | .active names none => .error (.unresolved b.writerClass names.writerField)
  | .closed => .error .usedAfterClose

/-- The text of a fragment. Only the constant can be had before the enum is
known. -/
def emit (b : FieldBuilder) (fragment : Fragment) : Except BuilderError String :=
  match fragment with
  | .wireConst => b.names.map (·.wireConstText b.number)
  | fragment => b.plan.map (·.fragment fragment)

/-- Accessors of repeated fields always take an allocator. -/
def needsAllocator (_ : FieldBuilder) : Bool := true

end FieldBuilder
end WireSchema
