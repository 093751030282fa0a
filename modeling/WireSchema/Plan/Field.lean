/-
# What a repeated enum field contributes

A field with its identifiers and the class of its enum determines eight
pieces of Python text: a constant, a declaration in the writer class, the
statements that size and write it, two declarations in the reader class, the
clause that recognises it, its accessor, and the statements that give its
storage back. The identifiers are taken one after the other from the
registry of the message, so no two of them coincide.

Key definitions: `FieldNames`, `FieldNames.derive`, `FieldPlan`, `Fragment`,
`FieldPlan.fragment`.
-/

import WireSchema.Names.Registry

namespace WireSchema

/-- The identifiers of a field. -/
structure FieldNames where
  writerField : String
  readerField : String
  readerMethod : String
  offsets : String
  wires : String
  wireConst : String
  /-- The class that holds the constant. -/
  wireClass : String
deriving DecidableEq, Repr

namespace FieldNames

/-- The constant as other classes refer to it. -/
def wireConstPath (n : FieldNames) : String := n.wireClass ++ "." ++ n.wireConst

/-- Takes the six identifiers of a field. -/
def derive (fieldName wireClass : String) : Naming FieldNames := do
  let writerField ← Naming.field fieldName
  let wireConst ← Naming.constant (fieldName ++ "Wire")
  let readerMethod ← Naming.method ("get_" ++ fieldName)
  let readerField ← Naming.request ("_" ++ writerField)
  let offsets ← Naming.request ("_" ++ writerField ++ "_offsets")
  let wires ← Naming.request ("_" ++ writerField ++ "_wires")
  return { writerField, readerField, readerMethod, offsets, wires, wireConst, wireClass }

/-- The identifiers that a field takes from its registry. -/
def all (n : FieldNames) : List String :=
  [n.writerField, n.wireConst, n.readerMethod, n.readerField, n.offsets, n.wires]

end FieldNames

/-- A field for which everything is known. -/
structure FieldPlan where
  names : FieldNames
  number : Int
  enumClass : String
deriving DecidableEq, Repr

/-- Lines joined into a text, without a line feed at the end. -/
def joinLines (lines : List String) : String := "\n".intercalate lines

/-- The pieces of text that a field contributes. -/
inductive Fragment where
  | wireConst | writerField | sizeCheck | writer | readerFields | readerCase | readerMethod
  | readerClose
deriving DecidableEq, Repr

namespace FieldNames

/-- The declaration of the field's constant. It does not mention the enum. -/
def wireConstText (n : FieldNames) (number : Int) : String :=
  n.wireConst ++ ": wire.ProtoWireNumber = " ++ toString number

end FieldNames

namespace FieldPlan

/-- The declaration in the writer class. -/
def writerFieldText (f : FieldPlan) : String :=
  f.names.writerField ++ ": Optional[List[" ++ f.enumClass ++ "]] = None"

/-- The statements that add the field's size. -/
def sizeCheckText (f : FieldPlan) : String :=
  let const := f.names.wireConstPath
  joinLines [
    "if self." ++ f.names.writerField ++ " is not None:",
    "    arr = self." ++ f.names.writerField,
    "    if len(arr) == 0:",
    "        pass",
    "    elif len(arr) == 1:",
    "        res += wire.sizes.size_wire_number(" ++ const
      ++ ") + wire.sizes.size_i32(int(arr[0]))",
    "    else:",
    "        packed_size = 0",
    "        for v in arr:",
    "            packed_size += wire.sizes.size_i32(int(v))",
    "        res += wire.sizes.size_wire_number(" ++ const
      ++ ") + wire.sizes.size_usize(packed_size) + packed_size"]

/-- The statements that write the field. -/
def writerText (f : FieldPlan) : String :=
  let const := f.names.wireConstPath
  joinLines [
    "if self." ++ f.names.writerField ++ " is not None:",
    "    arr = self." ++ f.names.writerField,
    "    if len(arr) == 0:",
    "        pass",
    "    elif len(arr) == 1:",
    "        target.append_int32(" ++ const ++ ", int(arr[0]))",
    "    else:",
    "        packed_size = 0",
    "        for v in arr:",
    "            packed_size += wire.sizes.size_i32(int(v))",
    "        target.append_bytes_tag(" ++ const ++ ", packed_size)",
    "        for v in arr:",
    "            target.append_int32_without_tag(int(v))"]

/-- The declarations in the reader class. -/
def readerFieldsText (f : FieldPlan) : String :=
  joinLines [
    f.names.offsets ++ ": Optional[List[int]] = None",
    f.names.wires ++ ": Optional[List[wire.ProtoWireType]] = None"]

/-- The clause that recognises the field in the scan. -/
def readerCaseText (f : FieldPlan) : String :=
  let offsets := "res." ++ f.names.offsets
  let wires := "res." ++ f.names.wires
  joinLines [
    "if tag.number == " ++ f.names.wireConstPath ++ ":",
    "    if " ++ offsets ++ " is None:",
    "        " ++ offsets ++ " = allocator.new_list()",
    "        " ++ wires ++ " = allocator.new_list()",
    "    " ++ offsets ++ ".append(offset)",
    "    " ++ wires ++ ".append(tag.wire)",
    "    if tag.wire == wire.ProtoWireType.BYTES:",
    "        length_result = buf.read_varint(offset)",
    "        offset = buf.skip(offset + length_result.size, length_result.value)",
    "    elif tag.wire == wire.ProtoWireType.VARINT:",
    "        result = buf.read_int32(offset)",
    "        offset += result.size",
    "    else:",
    "        raise wire.unexpected_wire_type(tag, offset)",
    "    continue"]

/-- The accessor. -/
def readerMethodText (f : FieldPlan) : String :=
  let offsets := "self." ++ f.names.offsets
  let wires := "self." ++ f.names.wires
  joinLines [
    "def " ++ f.names.readerMethod ++ "(self, allocator: wire.Allocator) -> List["
      ++ f.enumClass ++ "]:",
    "    result = allocator.new_list()",
    "    if " ++ offsets ++ " is None:",
    "        return result",
    "    try:",
    "        for start_offset, wire_type in zip(" ++ offsets ++ ", " ++ wires ++ "):",
    "            if wire_type == wire.ProtoWireType.BYTES:",
    "                length_result = self.buf.read_varint(start_offset)",
    "                offset = start_offset + length_result.size",
    "                end_offset = self.buf.skip(offset, length_result.value)",
    "                while offset < end_offset:",
    "                    value_result = self.buf.read_int32(offset)",
    "                    result.append(wire.enum_from_int(" ++ f.enumClass
      ++ ", value_result.value))",
    "                    offset += value_result.size",
    "                if offset != end_offset:",
    "                    raise wire.DecodeError(\"packed value overruns its block\", start_offset)",
    "            else:",
    "                value_result = self.buf.read_int32(start_offset)",
    "                result.append(wire.enum_from_int(" ++ f.enumClass ++ ", value_result.value))",
    "    except wire.DecodeError:",
    "        allocator.release(result)",
    "        raise",
    "    return result"]

/-- The statements that give the reader's storage back. -/
def readerCloseText (f : FieldPlan) : String :=
  let offsets := "self." ++ f.names.offsets
  let wires := "self." ++ f.names.wires
  joinLines [
    "if " ++ offsets ++ " is not None:",
    "    self._allocator.release(" ++ offsets ++ ")",
    "    " ++ offsets ++ " = None",
    "if " ++ wires ++ " is not None:",
    "    self._allocator.release(" ++ wires ++ ")",
    "    " ++ wires ++ " = None"]

/-- The text of a fragment. -/
def fragment (f : FieldPlan) : Fragment → String
  | .wireConst => f.names.wireConstText f.number
  | .writerField => f.writerFieldText
  | .sizeCheck => f.sizeCheckText
  | .writer => f.writerText
  | .readerFields => f.readerFieldsText
  | .readerCase => f.readerCaseText
  | .readerMethod => f.readerMethodText
  | .readerClose => f.readerCloseText

end FieldPlan
end WireSchema
