/-
# The command

Runs the program on the files of the machine. The descriptor set that the
command line names is read beforehand, and the files that the program wrote
are written afterwards. The command starts no other program, so it has no
schema compiler.

Key definitions: `main`.
-/

import WireSchema.CommandLine.Program

namespace WireSchema
namespace CommandLine

/-- Adds what a path leads to on the machine, if anything. -/
def addFromMachine (s : Store) (path : String) : IO Store := do
  try
    let contents ← IO.FS.readBinFile path
    return s.add path (.file contents.toList)
  catch
    | .inappropriateType .. => return s.add path .dir
    | _ => return s

/-- The world that a command line works on. -/
def worldFor (arguments : List String) : IO World := do
  let cwd := toString (← IO.currentDir)
  let start := Store.ofCwd cwd
  let set := (parseArguments arguments).toOption.bind (·.settings.descriptorSet)
  let store ← match set with
    | some (.text path) => addFromMachine start path
    | _ => pure start
  return { store, cwd }

/-- Writes the files that the program wrote. -/
def writeChanges (earlier later : Store) : IO Unit :=
  (Store.changes earlier later).reverse.forM fun (place, bytes) => do
    IO.FS.createDirAll ("/" ++ "/".intercalate place.dropLast)
    IO.FS.writeBinFile ("/" ++ "/".intercalate place) ⟨bytes.toArray⟩

/-- Runs the program on the machine. -/
def runCommand (arguments : List String) : IO UInt32 := do
  let world ← worldFor arguments
  let (outcome, after) := program arguments world
  writeChanges world.store after.store
  IO.print outcome.stdout
  IO.eprint outcome.stderr
  match outcome.ending with
  | .ok code => return UInt32.ofNat code
  | .error e =>
    IO.eprintln e.message
    return 1

end CommandLine
end WireSchema

/-- The command. -/
def main (arguments : List String) : IO UInt32 := WireSchema.CommandLine.runCommand arguments
