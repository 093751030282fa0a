/-
# Generating modules

Every schema file becomes a module in the output directory, named after the
last component of the file's name. Two files can have the same module; then
the later one replaces the earlier one, and the user is told.

Key definitions: `moduleFileName`, `Run.generateFile`, `Run.generateAll`,
`Request`, `Run.run`.
-/

import WireSchema.Run.Load

namespace WireSchema

/-- The file name of a module. -/
def moduleFileName (name : String) (options : Options) : String :=
  Path.stem name ++ options.outputSuffix ++ ".py"

/-- What a run is asked to do. -/
structure Request where
  /-- A schema file, or a directory of them. -/
  proto : Option Given
  /-- A descriptor set, which takes the place of the schema compiler. -/
  descriptorSet : Option Given
  out : Given
  includes : List String := []
  options : Options := {}

namespace Run

/-- Generates the module of a schema file and writes it. Nothing is written,
and no directory made, for a file that has no module. -/
def generateFile (file : SchemaFile) (out : Given) (options : Options) : Run String := do
  let (outcome, log) := ModulePlan.generate file options
  modify fun w => { w with log := w.log ++ log }
  let plan ← ofExcept (outcome.mapError .generate)
  let dir ← pathOf out
  ofStore (Store.makeDirs dir)
  let path := Path.join dir (moduleFileName file.name options)
  writeFile (Path.clean path) (encodeUtf8 plan.text)
  return path

/-- Generates the module of a file. `done` holds the paths written so far; a
path that is among them is reported and not added again. -/
def generateInto (out : Given) (options : Options) (done : List String) (file : SchemaFile) :
    Run (List String) := do
  let path ← generateFile file out options
  if done.contains path then
    report .warning .run (file.name ++ " overwrote " ++ path ++ " generated earlier in this run")
    return done
  else
    return done ++ [path]

/-- Generates the modules of several files. -/
def generateAll (out : Given) (options : Options) : List SchemaFile → List String →
    Run (List String)
  | [], done => pure done
  | file :: rest, done => do
    let done ← generateInto out options done file
    generateAll out options rest done

/-- The file of a set that a path means. -/
def selectProto (files : List FileProto) (path : String) : Run FileProto :=
  ofExcept ((selectFile FileProto.name files path).mapError (.load ∘ .noSuchFile))

/-- Compiles schemas one after the other and generates the module of each. -/
def compileAll (r : Request) : List String → List String → Run (List String)
  | [], done => pure done
  | path :: rest, done => do
    let files ← compileSet path r.includes
    let file ← selectProto files path
    let done ← generateInto r.out r.options done file.toSchema
    compileAll r rest done

/-- The schemas that a path means: itself, or those below a directory. -/
def schemasAt (s : Store) (path : String) : Except FileError (List String) :=
  match s.checkDir (Path.clean path) with
  | .error e => .error e
  | .ok isDir => .ok (if isDir then s.findBelow path ".proto" else [path])

/-- Does what is asked, and gives the paths of the modules written. -/
def run (r : Request) : Run (List String) := do
  match r.descriptorSet, r.proto with
  | some set, none =>
    let files ← loadSet (← pathOf set)
    generateAll r.out r.options (files.map FileProto.toSchema) []
  | some set, some proto =>
    let files ← loadSet (← pathOf set)
    let file ← selectProto files (← pathOf proto)
    generateAll r.out r.options [file.toSchema] []
  | none, none => throw .noInput
  | none, some proto =>
    let path ← pathOf proto
    let inputs ← ofExcept ((schemasAt (← get).store path).mapError .file)
    if inputs.isEmpty then
      report .warning .run ("No .proto files found under " ++ path)
    compileAll r inputs []

end Run
end WireSchema
