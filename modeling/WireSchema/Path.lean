/-
# Paths

A path is a text; slashes divide it into components. There are two ways to
tidy one up. Both leave out empty components and single dots. `clean` leaves
double dots alone; `normalize` also resolves them without looking at any
file. Two slashes at the start, but not three, are kept.

Key definitions: `Path.components`, `Path.base`, `Path.parent`, `Path.split`,
`Path.join`, `Path.clean`, `Path.normalize`, `Path.stem`.
-/

namespace WireSchema
namespace Path

/-- The pieces of a text between slashes, empty ones included. -/
def pieces : List Char → List (List Char)
  | [] => [[]]
  | c :: rest =>
    if c = '/' then [] :: pieces rest
    else
      match pieces rest with
      | [] => [[c]]
      | piece :: more => (c :: piece) :: more

/-- The pieces of a path between slashes, empty ones included. -/
def components (path : String) : List String := (pieces path.toList).map String.ofList

/-- The slashes at the start that are kept: none, one, or exactly two. -/
def root (path : String) : String :=
  match path.toList with
  | '/' :: '/' :: '/' :: _ => "/"
  | '/' :: '/' :: _ => "//"
  | '/' :: _ => "/"
  | _ => ""

/-- The components that say something. -/
def parts (path : String) : List String :=
  (components path).filter fun c => c != "" && c != "."

/-- A root and components, or a dot if there is nothing. -/
def ofParts (root : String) (parts : List String) : String :=
  let text := root ++ "/".intercalate parts
  if text.isEmpty then "." else text

/-- The path without empty components and single dots. -/
def clean (path : String) : String := ofParts (root path) (parts path)

/-- Adds a component to resolved ones, the last of which stands first. A
double dot takes one away; above a root it says nothing, and without a root
it stays when there is nothing to take away. -/
def resolvePart (rooted : Bool) (above : List String) (part : String) : List String :=
  if part != ".." then part :: above
  else
    match above with
    | [] => if rooted then [] else [".."]
    | last :: rest => if last == ".." then ".." :: above else rest

/-- The path with double dots resolved. -/
def normalize (path : String) : String :=
  let rooted := !(root path).isEmpty
  ofParts (root path) ((parts path).foldl (resolvePart rooted) []).reverse

/-- The text after the last slash. -/
def base (path : String) : String :=
  String.ofList ((path.toList.reverse.takeWhile (· != '/')).reverse)

/-- A text without the slashes at its end, unless it has nothing else. -/
def dropSlashes (text : List Char) : List Char :=
  let kept := (text.reverse.dropWhile (· == '/')).reverse
  if kept.isEmpty then text else kept

/-- The text before the last slash, without the slashes at its end. -/
def parent (path : String) : String :=
  String.ofList (dropSlashes ((path.toList.reverse.dropWhile (· != '/')).reverse))

/-- What comes before the last component, and the last component. -/
def split (path : String) : String × String := (parent path, base path)

/-- A path below another one; a path that starts with a slash stands for
itself. -/
def join (dir path : String) : String :=
  if path.toList.head? = some '/' then path
  else if dir.isEmpty || dir.toList.getLast? = some '/' then dir ++ path
  else dir ++ "/" ++ path

/-- The path that means the same from anywhere. -/
def absolute (cwd path : String) : String := normalize (join cwd path)

/-- The last component without the last dot and what follows it. A dot at
the start or at the end of the component does not count. -/
def stem (path : String) : String :=
  match (parts path).getLast? with
  | none => ""
  | some name =>
    let cs := name.toList
    let ext := (cs.reverse.takeWhile (· != '.')).reverse
    let before := cs.take (cs.length - ext.length - 1)
    if ext.isEmpty || before.isEmpty then name else String.ofList before

end Path
end WireSchema
