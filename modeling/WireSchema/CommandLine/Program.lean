/-
# The program

The program reads its command line, does what it asks for, and says what it
wrote. Reports go to the error stream; details are shown on request only.
Errors in descriptors and schemas end the program with a line that begins
with `FATAL`; other errors are handed to the caller.

Key definitions: `usageText`, `helpText`, `Outcome`, `program`.
-/

import WireSchema.CommandLine.Options
import WireSchema.Run.Generate

namespace WireSchema
namespace CommandLine

/-- How the program is called. -/
def usageText : String :=
  "usage: protoc-wire [-h] (--proto PROTO | --descriptor-set DESCRIPTOR_SET)\n" ++
  "                   --out OUT [-I INCLUDE] [--runtime-package RUNTIME_PACKAGE]\n" ++
  "                   [-v]\n"

/-- What the program does, and its options. -/
def helpText : String :=
  usageText ++
  "\n" ++
  "Generate Python wire-format readers and writers from .proto files\n" ++
  "\n" ++
  "options:\n" ++
  "  -h, --help            show this help message and exit\n" ++
  "  --proto PROTO         Path to a .proto file or a directory containing .proto\n" ++
  "                        files (recursively)\n" ++
  "  --descriptor-set DESCRIPTOR_SET\n" ++
  "                        Binary FileDescriptorSet produced by protoc\n" ++
  "                        --descriptor_set_out\n" ++
  "  --out OUT             Output directory for generated modules\n" ++
  "  -I INCLUDE, --include INCLUDE\n" ++
  "                        Additional protoc include path (repeatable)\n" ++
  "  --runtime-package RUNTIME_PACKAGE\n" ++
  "                        Package the generated code imports 'wire' from\n" ++
  "  -v, --verbose         Enable debug logging\n"

/-- How the program ends: with an exit code, or with an error that it does
not handle; and what it printed. -/
structure Outcome where
  ending : Except RunError Nat
  stdout : String := ""
  stderr : String := ""

/-- What a complete command line asks for. -/
def Arguments.request (a : Arguments) : Request where
  proto := a.settings.proto
  descriptorSet := a.settings.descriptorSet
  out := a.out
  includes := a.settings.includes
  options := { runtimePackage := a.settings.runtimePackage }

/-- Whether an error is reported and ends the program with exit code 1. -/
def isFatal : RunError → Bool
  | .load _ | .generate (.codegen _) => true
  | _ => false

/-- The lines that show what was reported. -/
def logText (verbose : Bool) (log : List LogEntry) : String :=
  String.join ((log.filter fun e => verbose || e.level != .debug).map fun e => e.line ++ "\n")

/-- The outcome of a run. -/
def outcomeOf (verbose : Bool) : EStateM.Result RunError World (List String) → Outcome × World
  | .ok paths w =>
    ({ ending := .ok 0
       stdout := String.join (paths.map fun path => "Generated: " ++ path ++ "\n")
       stderr := logText verbose w.log }, w)
  | .error e w =>
    if isFatal e then
      ({ ending := .ok 1
         stderr := logText verbose w.log ++ "FATAL: " ++ e.message ++ "\n" }, w)
    else ({ ending := .error e, stderr := logText verbose w.log }, w)

/-- Runs the program. -/
def program (arguments : List String) (w : World) : Outcome × World :=
  match parseArguments arguments with
  | .error .help => ({ ending := .ok 0, stdout := helpText }, w)
  | .error (.error e) =>
    ({ ending := .ok 2
       stderr := usageText ++ "protoc-wire: error: " ++ e.message ++ "\n" }, w)
  | .ok a => outcomeOf a.settings.verbose (Run.run a.request w)

end CommandLine
end WireSchema
