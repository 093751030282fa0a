/-
# What a run works on

A run reads and writes a store, asks a schema compiler for descriptor sets,
and reports. How the compiler will answer is part of the world: one answer
for each time it is asked, and when there are no more answers, there is no
compiler.

Key definitions: `CompilerAnswer`, `World`, `Given`, `LoadError`, `RunError`,
`Run`.
-/

import WireSchema.Descriptor.Binary
import WireSchema.Plan.Module
import WireSchema.Storage

namespace WireSchema

/-- What the schema compiler does when it is asked. -/
inductive CompilerAnswer where
  /-- There is no compiler. -/
  | missing
  /-- It fails and explains why. -/
  | failed (stderr : Bytes)
  /-- It succeeds, and writes a descriptor set or forgets to. -/
  | wrote (output : Option Bytes)
deriving DecidableEq, Repr

/-- Everything a run can see or change. -/
structure World where
  store : Store := {}
  /-- The working directory as a path. -/
  cwd : String := "/"
  compiler : List CompilerAnswer := []
  /-- The command lines that the compiler was started with. -/
  calls : List (List String) := []
  log : List LogEntry := []

/-- A value that a run is given. It can be blank: the caller did give it, but
there is no text in it, so it names nothing. -/
inductive Given where
  | text (value : String)
  | blank
deriving DecidableEq, Repr

/-- The text that stands for a value where it is only shown: a blank value
shows as an empty list. -/
def Given.shown : Given → String
  | text value => value
  | blank => "[]"

/-- Why there is no descriptor set. -/
inductive LoadError where
  | unreadable (path : String) (e : FileError)
  | invalid (path : String) (fault : BinaryFault)
  | compilerMissing
  | compilerFailed (explanation : String)
  | noSuchFile (e : NoSuchFile)
deriving DecidableEq, Repr

/-- The text of the error. -/
def LoadError.message : LoadError → String
  | unreadable path e => "cannot read descriptor set '" ++ path ++ "': " ++ e.message
  | invalid path fault =>
    "'" ++ path ++ "' is not a valid descriptor set: Error parsing message with type " ++
      "'google.protobuf.FileDescriptorSet': " ++ fault.message
  | compilerMissing =>
    "'protoc' not found. Please install the Protocol Buffers compiler and ensure it is in PATH."
  | compilerFailed explanation => "protoc failed: " ++ explanation
  | noSuchFile e => e.message

/-- Why a run ends early. -/
inductive RunError where
  | load (e : LoadError)
  | generate (e : GenError)
  | file (e : FileError)
  /-- Neither a schema nor a descriptor set was given. -/
  | noInput
  /-- A path was asked for, and the value given for it was blank. -/
  | blankPath
deriving DecidableEq, Repr

/-- The text of the error. -/
def RunError.message : RunError → String
  | load e => e.message
  | generate e => e.message
  | file e => e.message
  | noInput => "either proto or descriptor_set is required"
  | blankPath => "expected a path, not an empty list"

/-- Work on a world. What was done before a failure stays done. -/
abbrev Run := EStateM RunError World

namespace Run

variable {α : Type}

/-- Reports something. -/
def report (level : LogLevel) (source : LogSource) (text : String) : Run Unit := fun w =>
  .ok () { w with log := w.log ++ [⟨level, source, text⟩] }

/-- Works on the store. -/
def ofStore (x : EStateM FileError Store α) : Run α := fun w =>
  match x w.store with
  | .ok a s => .ok a { w with store := s }
  | .error e s => .error (.file e) { w with store := s }

/-- Writes a file. -/
def writeFile (path : String) (bytes : Bytes) : Run Unit := fun w =>
  match w.store.write path bytes with
  | .ok s => .ok () { w with store := s }
  | .error e => .error (.file e) w

/-- Continues with the value of a computation that needs no world. -/
def ofExcept (x : Except RunError α) : Run α := fun w =>
  match x with
  | .ok a => .ok a w
  | .error e => .error e w

/-- The path that a value names. -/
def pathOf : Given → Run String
  | .text path => pure path
  | .blank => throw .blankPath

end Run
end WireSchema
