/-
# Files and directories

A store holds files and directories under absolute paths, and a directory
that relative paths start from. A path is followed component by component:
whatever has a component behind it must be a directory. Paths and components
have a greatest length in bytes, and no path holds a null character.
Operations fail with a fault that says what is wrong with the path or what
was found there.

Key definitions: `Store`, `Store.locate`, `Store.read`, `Store.write`,
`Store.makeDir`, `Store.makeDirs`, `Store.findBelow`, `Store.changes`.
-/

import WireSchema.Path
import WireSchema.Text.Quoted
import WireSchema.Wire.WireType

namespace WireSchema

/-- What is wrong with a path. -/
inductive FileFault where
  | noEntry
  | fileExists
  | notDirectory
  | isDirectory
  | nameTooLong
  /-- The path holds a null character, so that it cannot be followed at all. -/
  | nullCharacter
deriving DecidableEq, Repr

/-- The number of the fault, unless it was found before the path was followed. -/
def FileFault.code? : FileFault → Option Nat
  | noEntry => some 2
  | fileExists => some 17
  | notDirectory => some 20
  | isDirectory => some 21
  | nameTooLong => some 36
  | nullCharacter => none

/-- The text of the fault. -/
def FileFault.text : FileFault → String
  | noEntry => "No such file or directory"
  | fileExists => "File exists"
  | notDirectory => "Not a directory"
  | isDirectory => "Is a directory"
  | nameTooLong => "File name too long"
  | nullCharacter => "embedded null byte"

/-- A fault and the path it was found at. -/
structure FileError where
  fault : FileFault
  path : String
deriving DecidableEq, Repr

/-- The text of the error. A fault with a number is told with the path. -/
def FileError.message (e : FileError) : String :=
  match e.fault.code? with
  | some code => "[Errno " ++ toString code ++ "] " ++ e.fault.text ++ ": " ++ quoted e.path
  | none => e.fault.text

/-- A file or a directory. -/
inductive Node where
  | dir
  | file (bytes : Bytes)
deriving DecidableEq, Repr

/-- Files and directories by the components of their absolute paths. -/
structure Store where
  nodes : List (List String × Node) := []
  cwd : List String := []
deriving DecidableEq, Repr

namespace Store

/-- What is at a place. The root is always there. -/
def node? (s : Store) (place : List String) : Option Node :=
  if place.isEmpty then some .dir else s.nodes.lookup place

/-- Puts a file or directory at a place, instead of what is there. -/
def put (s : Store) (place : List String) (node : Node) : Store :=
  { s with nodes := (place, node) :: s.nodes.filter (·.1 != place) }

/-- The bytes that a component of a path may take. -/
def componentLimit : Nat := 255

/-- The bytes that a path may take. -/
def pathLimit : Nat := 4095

/-- Follows components from a place. The last one need not lead to anything.
A component is too long only where it is looked for. -/
def follow (s : Store) : List String → List String → Except FileFault (List String)
  | place, [] => .ok place
  | place, component :: rest =>
    match s.node? place with
    | none => .error .noEntry
    | some (.file _) => .error .notDirectory
    | some .dir =>
      if component == "" || component == "." then follow s place rest
      else if component == ".." then follow s place.dropLast rest
      else if componentLimit < component.utf8ByteSize then .error .nameTooLong
      else follow s (place ++ [component]) rest

/-- What is wrong with a path wherever it leads. -/
def pathFault? (path : String) : Option FileFault :=
  if path.toList.contains '\x00' then some .nullCharacter
  else if path.isEmpty then some .noEntry
  else if pathLimit < path.utf8ByteSize then some .nameTooLong
  else none

/-- The place that a path leads to. The empty path leads nowhere. -/
def locate (s : Store) (path : String) : Except FileFault (List String) :=
  match pathFault? path with
  | some fault => .error fault
  | none =>
    if (Path.root path).isEmpty then s.follow s.cwd (Path.components path)
    else s.follow [] (Path.components path)

/-- What a path leads to, if anything. -/
def find? (s : Store) (path : String) : Option Node :=
  match s.locate path with
  | .ok place => s.node? place
  | .error _ => none

/-- Whether a path leads to something. -/
def exists? (s : Store) (path : String) : Bool := (s.find? path).isSome

/-- Whether a path leads to a directory. -/
def isDir (s : Store) (path : String) : Bool := s.find? path == some .dir

/-- Whether a path leads to a directory, for a caller who wants to be told of
a path that is too long. -/
def checkDir (s : Store) (path : String) : Except FileError Bool :=
  match s.locate path with
  | .error .nameTooLong => .error ⟨.nameTooLong, path⟩
  | _ => .ok (s.isDir path)

/-- The contents of a file. -/
def read (s : Store) (path : String) : Except FileError Bytes :=
  match s.locate path with
  | .error fault => .error ⟨fault, path⟩
  | .ok place =>
    match s.node? place with
    | some (.file bytes) => .ok bytes
    | some .dir => .error ⟨.isDirectory, path⟩
    | none => .error ⟨.noEntry, path⟩

/-- Writes a file; the directory it is in must be there. -/
def write (s : Store) (path : String) (bytes : Bytes) : Except FileError Store :=
  match s.locate path with
  | .error fault => .error ⟨fault, path⟩
  | .ok place =>
    if s.node? place = some .dir then .error ⟨.isDirectory, path⟩
    else .ok (s.put place (.file bytes))

/-- Makes a directory; slashes at the end of the path only add to its length. -/
def makeDir (s : Store) (path : String) : Except FileError Store :=
  match pathFault? path with
  | some fault => .error ⟨fault, path⟩
  | none =>
    match s.locate (String.ofList (Path.dropSlashes path.toList)) with
    | .error fault => .error ⟨fault, path⟩
    | .ok place =>
      if (s.node? place).isSome then .error ⟨.fileExists, path⟩ else .ok (s.put place .dir)

/-- Makes a directory unless it is there. -/
def ensureDir (path : String) : EStateM FileError Store Unit := fun s =>
  match s.makeDir path with
  | .ok s' => .ok () s'
  | .error e => if s.isDir path then .ok () s else .error e s

/-- Goes on when something is there already. -/
def unlessExists (x : EStateM FileError Store Unit) : EStateM FileError Store Unit := fun s =>
  match x s with
  | .ok () s' => .ok () s'
  | .error e s' => if e.fault = .fileExists then .ok () s' else .error e s'

/-- What comes before the last component that is not empty, and that
component. -/
def splitLast (path : String) : String × String :=
  match Path.split path with
  | (head, "") => Path.split head
  | parts => parts

/-- Makes a directory and those above it that are not there, as many as the
bound says. -/
def makeDirsWithin : Nat → String → EStateM FileError Store Unit
  | 0, path => ensureDir path
  | bound + 1, path => do
    let (head, tail) := splitLast path
    if head.isEmpty || tail.isEmpty || (← get).exists? head then ensureDir path
    else
      unlessExists (makeDirsWithin bound head)
      if tail != "." then ensureDir path

/-- Makes a directory and those above it that are not there. -/
def makeDirs (path : String) : EStateM FileError Store Unit :=
  makeDirsWithin path.length path

/-- Makes a place a directory unless something is there. -/
def occupy (s : Store) (place : List String) : Store :=
  if (s.node? place).isSome then s else s.put place .dir

/-- Follows components from a place, and makes a directory of every place
that has a component behind it, also where that component leads up again.
The last place is not made. -/
def clearWay (s : Store) : List String → List String → Store × List String
  | place, [] => (s, place)
  | place, component :: rest =>
    if component == "" || component == "." then (s.occupy place).clearWay place rest
    else if component == ".." then (s.occupy place).clearWay place.dropLast rest
    else (s.occupy place).clearWay (place ++ [component]) rest

/-- Adds a file or a directory, with the directories on the way to it. -/
def add (s : Store) (path : String) (node : Node) : Store :=
  let start := if (Path.root path).isEmpty then s.cwd else []
  let (s, place) := s.clearWay start (Path.components path)
  if place.isEmpty then s else s.put place node

/-- A store with nothing but a working directory. -/
def ofCwd (cwd : String) : Store := { add {} cwd .dir with cwd := Path.parts cwd }

/-- The files that are not in an earlier store, or not as they are now. -/
def changes (earlier s : Store) : List (List String × Bytes) :=
  s.nodes.filterMap fun (place, node) =>
    match node with
    | .dir => none
    | .file bytes => if earlier.node? place = some node then none else some (place, bytes)

/-- The paths of the files and directories below a directory whose names end
as given, in order of their code points. -/
def findBelow (s : Store) (dir ending : String) : List String :=
  let dir := Path.clean dir
  match s.locate dir with
  | .error _ => []
  | .ok place =>
    let below := s.nodes.filterMap fun (key, _) =>
      match place.isPrefixOf? key with
      | some (c :: rest) =>
        let names := c :: rest
        if ending.toList.isSuffixOf (names.getLast?.getD "").toList then
          some (Path.clean (Path.join dir ("/".intercalate names)))
        else none
      | _ => none
    below.mergeSort fun a b => decide (a ≤ b)

end Store
end WireSchema
