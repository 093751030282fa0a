/-
# Descriptors

A schema compiler describes a file as a tree: messages hold fields, enums
and messages. The generator needs the tree flattened. A message comes before
those it holds, and its enums come where it comes. Entries of maps are
messages that nobody declared, so they are left out with all they hold.

Key definitions: `MessageProto`, `FileProto`, `FileProto.toSchema`,
`selectFile`.
-/

import WireSchema.Path
import WireSchema.Schema

namespace WireSchema

/-- A described field. -/
structure FieldProto where
  name : String := ""
  number : Int := 0
  label : Label := .optional
  type : FieldType := .double
  typeName : String := ""
deriving DecidableEq, Repr

/-- A described enum. Names of values may repeat. -/
structure EnumProto where
  name : String := ""
  values : List (String × Int) := []
deriving DecidableEq, Repr

/-- A described message. -/
inductive MessageProto where
  | mk (name : String) (fields : List FieldProto) (enums : List EnumProto)
      (nested : List MessageProto) (mapEntry : Bool)
deriving Repr, Inhabited

/-- A described file. -/
structure FileProto where
  name : String := ""
  package : String := ""
  enums : List EnumProto := []
  messages : List MessageProto := []
deriving Repr

/-- A name below a scope; the outermost scope has no name. -/
def qualify (scope name : String) : String :=
  if scope.isEmpty then name else scope ++ "." ++ name

/-- Adds a value to an enum. A name that is there already keeps its place and
gets the new number. -/
def putValue (values : List (String × Int)) (value : String × Int) : List (String × Int) :=
  if values.any (·.1 == value.1) then
    values.map fun v => if v.1 == value.1 then value else v
  else values ++ [value]

/-- The declared field. -/
def FieldProto.toField (f : FieldProto) : Field where
  name := f.name
  type := f.type
  number := f.number
  label := f.label
  typeName := dropDots f.typeName

/-- The declared enum. -/
def EnumProto.toDecl (scope : String) (e : EnumProto) : EnumDecl where
  name := e.name
  fullName := qualify scope e.name
  values := e.values.foldl putValue []

mutual

/-- The declared messages of a tree, each with the enums it holds. -/
def MessageProto.declared (scope : String) : MessageProto → List (MessageDecl × List EnumDecl)
  | .mk name fields enums nested mapEntry =>
    if mapEntry then []
    else
      let fullName := qualify scope name
      (⟨name, fullName, fields.map FieldProto.toField⟩, enums.map (EnumProto.toDecl fullName)) ::
        declaredAll fullName nested

/-- The declared messages of several trees, in order. -/
def declaredAll (scope : String) : List MessageProto → List (MessageDecl × List EnumDecl)
  | [] => []
  | m :: rest => m.declared scope ++ declaredAll scope rest

end

/-- The schema file that a tree describes. -/
def FileProto.toSchema (f : FileProto) : SchemaFile :=
  let messages := declaredAll f.package f.messages
  { name := f.name
    package := if f.package.isEmpty then none else some f.package
    enums := f.enums.map (EnumProto.toDecl f.package) ++ messages.flatMap (·.2)
    messages := messages.map (·.1) }

/-- No file of a set is the one that was asked for. -/
structure NoSuchFile where
  base : String
  found : List String
deriving DecidableEq, Repr

/-- The text of the error. -/
def NoSuchFile.message (e : NoSuchFile) : String :=
  "Could not locate target file '" ++ e.base ++ "' in descriptor set. Found: " ++
    ", ".intercalate e.found

/-- Whether a file name is the base name or ends in it as a component. -/
def namesBase (base name : String) : Bool :=
  name == base || ('/' :: base.toList).isSuffixOf name.toList

/-- The file of a set that a path means: the first whose name ends in the
base name of the path, or else the only one. -/
def selectFile {α : Type} (nameOf : α → String) (files : List α) (path : String) :
    Except NoSuchFile α :=
  let base := Path.base path
  match files.find? (namesBase base ∘ nameOf) with
  | some file => .ok file
  | none =>
    match files with
    | [file] => .ok file
    | _ => .error ⟨base, files.map nameOf⟩

end WireSchema
