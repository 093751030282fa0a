/-
# Classes of a module

Every class of a generated module takes its name from one registry, which
starts with the names the module imports. A class whose flattened name is
taken gets another one, and the user is told. The enums of a file come first;
a scope remembers which class each of them got.

Key definitions: `moduleImports`, `Gen`, `Gen.claim`, `EnumScope`,
`EnumScope.ofFile`, `EnumScope.resolve`.
-/

import WireSchema.Log
import WireSchema.Plan.Builder

namespace WireSchema

/-- The names that every generated module imports. -/
def moduleImports : List String := ["dataclass", "enum", "List", "Optional", "wire"]

/-- Why a module cannot be generated. -/
inductive GenError where
  | name (e : NameError)
  | codegen (e : CodegenError)
  | builder (e : BuilderError)
  /-- No class was made for an enum of this full name. -/
  | noClass (fullName : String)
deriving DecidableEq, Repr

/-- The text of the error. -/
def GenError.message : GenError → String
  | name e => e.message
  | codegen e => e.text
  | builder e => e.message
  | noClass fullName => fullName

/-- The class names taken and the reports made so far. -/
structure GenState where
  names : Registry := ⟨moduleImports⟩
  log : List LogEntry := []
deriving DecidableEq, Repr

/-- Work on one module. What was taken and reported before a failure stays. -/
abbrev Gen := EStateM GenError GenState

namespace Gen

variable {α : Type}

/-- Reports something. -/
def report (level : LogLevel) (text : String) : Gen Unit := fun s =>
  .ok () { s with log := s.log ++ [⟨level, .generator, text⟩] }

/-- Takes names from the registry of the module. -/
def ofNaming (x : Naming α) : Gen α := fun s =>
  match x s.names with
  | .ok a r => .ok a { s with names := r }
  | .error e r => .error (.name e) { s with names := r }

/-- The class names taken so far. -/
def takenNames : Gen (List String) := fun s => .ok s.names.used s

/-- Continues with the value of a computation that needs no state. -/
def ofExcept (x : Except GenError α) : Gen α := fun s =>
  match x with
  | .ok a => .ok a s
  | .error e => .error e s

/-- Takes a class name, and reports if it is not the one asked for. -/
def claim (fullName candidate : String) : Gen String := do
  let name ← ofNaming (Naming.request candidate)
  if name ≠ candidate then
    report .warning
      (fullName ++ ": class name '" ++ candidate ++ "' is taken; using '" ++ name ++ "'")
  return name

end Gen

/-- The class of every enum by its full name, the latest first. -/
structure EnumScope where
  classes : List (String × String) := []
deriving DecidableEq, Repr

namespace EnumScope

/-- The class of a full name, which may start with dots. -/
def find? (scope : EnumScope) (fullName : String) : Option String :=
  scope.classes.lookup (dropDots fullName)

/-- Claims a class for each enum. -/
def claimAll (package : Option String) : List EnumDecl → EnumScope → Gen EnumScope
  | [], scope => pure scope
  | e :: rest, scope => do
    let fullName := dropDots e.fullName
    let name ← Gen.claim fullName (flatName e.fullName package)
    claimAll package rest ⟨(fullName, name) :: scope.classes⟩

/-- Claims a class for each enum of a file. -/
def ofFile (file : SchemaFile) : Gen EnumScope := claimAll file.package file.enums {}

/-- The class of a declared enum. -/
def classOf (scope : EnumScope) (fullName : String) : Except GenError String :=
  match scope.find? fullName with
  | some name => .ok name
  | none => .error (.noClass (dropDots fullName))

/-- The class of the enum that a field refers to. -/
def resolve (scope : EnumScope) (typeName message field : String) : Except GenError String :=
  match scope.find? typeName with
  | some name => .ok name
  | none => .error (.codegen ⟨.undefinedEnum typeName, message, field⟩)

end EnumScope
end WireSchema
