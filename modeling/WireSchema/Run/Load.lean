/-
# Getting descriptor sets

A descriptor set is read from a file, or the schema compiler is asked for
it. The compiler searches the directory of the schema first and then the
directories the caller names, each once.

Key definitions: `parseSet`, `Run.loadSet`, `Run.compileSet`.
-/

import WireSchema.Run.World

namespace WireSchema

/-- The files of a set that was read from a path, or the fault it was read
with. A path that cannot be followed at all says nothing about the set. -/
def parseSet (path : String) (contents : Except FileError Bytes) :
    Except RunError (List FileProto) :=
  match contents with
  | .error e =>
    if e.fault = .nullCharacter then .error (.file e) else .error (.load (.unreadable path e))
  | .ok bytes =>
    match FileProto.readSet bytes with
    | .ok files => .ok files
    | .error fault => .error (.load (.invalid path fault))

/-- Where the schema compiler leaves its output. -/
def compilerOutput : String := "/tmpdir/descriptor_set.pb"

/-- The directories that the compiler searches. -/
def searchDirs (cwd path : String) (includes : List String) : List String :=
  ((Path.parent (Path.absolute cwd path) :: includes).filter (!·.isEmpty)).eraseDups

/-- The command line that starts the compiler. -/
def compilerCommand (cwd path : String) (includes : List String) : List String :=
  ["protoc", "--include_imports", "--descriptor_set_out=" ++ compilerOutput] ++
    (searchDirs cwd path includes).flatMap (fun dir => ["-I", dir]) ++ [path]

/-- The files of a set that the compiler was asked for. -/
def CompilerAnswer.files : CompilerAnswer → Except RunError (List FileProto)
  | missing => .error (.load .compilerMissing)
  | failed stderr => .error (.load (.compilerFailed (decodeUtf8 stderr)))
  | wrote (some bytes) => parseSet compilerOutput (.ok bytes)
  | wrote none => parseSet compilerOutput (.error ⟨.noEntry, compilerOutput⟩)

namespace Run

/-- Reads a descriptor set. -/
def loadSet (path : String) : Run (List FileProto) := do
  let w ← get
  ofExcept (parseSet path (w.store.read path))

/-- Starts the compiler and takes its answer. -/
def startCompiler (command : List String) : Run CompilerAnswer := fun w =>
  .ok (w.compiler.headD .missing)
    { w with compiler := w.compiler.tail, calls := w.calls ++ [command] }

/-- Asks the compiler for the descriptor set of a schema and its imports. -/
def compileSet (path : String) (includes : List String) : Run (List FileProto) := do
  let command := compilerCommand (← get).cwd path includes
  report .debug .loader ("Running " ++ " ".intercalate command)
  let answer ← startCompiler command
  ofExcept answer.files

end Run
end WireSchema
