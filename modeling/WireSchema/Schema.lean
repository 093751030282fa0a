/-
# Schema files

What a schema file declares, flattened: its enums and messages with their
full names, and the fields of every message.

Key definitions: `FieldType`, `Label`, `Field`, `EnumDecl`, `MessageDecl`,
`SchemaFile`, `Options`.
-/

namespace WireSchema

/-- The declared type of a field. -/
inductive FieldType where
  | double | float | int64 | uint64 | int32 | fixed64 | fixed32 | bool | string | group
  | message | bytes | uint32 | enum | sfixed32 | sfixed64 | sint32 | sint64
deriving DecidableEq, Repr

namespace FieldType

/-- The word for the type in a schema. -/
def label : FieldType → String
  | double => "double"
  | float => "float"
  | int64 => "int64"
  | uint64 => "uint64"
  | int32 => "int32"
  | fixed64 => "fixed64"
  | fixed32 => "fixed32"
  | bool => "bool"
  | string => "string"
  | group => "group"
  | message => "message"
  | bytes => "bytes"
  | uint32 => "uint32"
  | enum => "enum"
  | sfixed32 => "sfixed32"
  | sfixed64 => "sfixed64"
  | sint32 => "sint32"
  | sint64 => "sint64"

/-- All types in the order of their codes, which start at 1. -/
def all : List FieldType :=
  [double, float, int64, uint64, int32, fixed64, fixed32, bool, string, group, message, bytes,
   uint32, enum, sfixed32, sfixed64, sint32, sint64]

/-- The type of a code from 1 to 18. -/
def ofCode? : Nat → Option FieldType
  | 0 => none
  | n + 1 => all[n]?

end FieldType

/-- How often a field may occur. -/
inductive Label where
  | optional | required | repeated
deriving DecidableEq, Repr

namespace Label

/-- The word for the label in a schema. -/
def word : Label → String
  | optional => "optional"
  | required => "required"
  | repeated => "repeated"

/-- The label of a code from 1 to 3. -/
def ofCode? : Nat → Option Label
  | 1 => some optional
  | 2 => some required
  | 3 => some repeated
  | _ => none

end Label

/-- A field of a message. `typeName` is the full name of its enum or message
type, if it has one. -/
structure Field where
  name : String
  type : FieldType
  number : Int
  label : Label
  typeName : String
deriving DecidableEq, Repr

namespace Field

/-- Whether the field holds a list. -/
def isRepeated (f : Field) : Bool := f.label == .repeated

/-- Whether code can be generated for the field. -/
def isRepeatedEnum (f : Field) : Bool := f.type == .enum && f.isRepeated

end Field

/-- An enum with its values in order of declaration. -/
structure EnumDecl where
  name : String
  fullName : String
  values : List (String × Int)
deriving DecidableEq, Repr

/-- A message with its fields in order of declaration. -/
structure MessageDecl where
  name : String
  fullName : String
  fields : List Field
deriving DecidableEq, Repr

/-- What a schema file declares. -/
structure SchemaFile where
  name : String
  package : Option String
  enums : List EnumDecl
  messages : List MessageDecl
deriving DecidableEq, Repr

/-- Choices of the caller: where the generated module finds its support code,
and what is added to the names of the generated classes and modules. -/
structure Options where
  runtimePackage : String := "protoc_wire.runtime"
  wireSuffix : String := "Wire"
  readerSuffix : String := "Reader"
  outputSuffix : String := "_wire"
deriving DecidableEq, Repr

/-- A name without the dots it starts with. -/
def dropDots (name : String) : String := String.ofList (name.toList.dropWhile (· == '.'))

/-- A full name without its package. -/
def withinPackage (package : Option String) (name : List Char) : List Char :=
  match package with
  | none => name
  | some p =>
    if p.isEmpty then name
    else ((p.toList ++ ['.']).isPrefixOf? name).getD name

/-- The class name for a declaration: its path below the package, without
dots. `pkg.Outer.Level` in package `pkg` becomes `OuterLevel`. -/
def flatName (fullName : String) (package : Option String) : String :=
  String.ofList ((withinPackage package (fullName.toList.dropWhile (· == '.'))).filter (· != '.'))

end WireSchema
