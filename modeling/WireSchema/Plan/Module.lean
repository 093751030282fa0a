/-
# A generated module

A module has a class for every enum of its schema file and three for every
message. The plan keeps them as data; the text is written from it.

Key definitions: `EnumPlan`, `ModulePlan`, `ModulePlan.build`,
`ModulePlan.generate`, `ModulePlan.text`.
-/

import WireSchema.Plan.Message
import WireSchema.Text.Lines

namespace WireSchema

/-- The class of an enum, with its members in order. -/
structure EnumPlan where
  className : String
  members : List (String × Int)
deriving DecidableEq, Repr

/-- The classes of a module. -/
structure ModulePlan where
  source : String
  runtimePackage : String
  enums : List EnumPlan
  messages : List MessagePlan
deriving DecidableEq, Repr

/-- Members are named like the values of the enum, keywords apart. -/
def EnumPlan.ofDecl (className : String) (e : EnumDecl) : EnumPlan where
  className
  members := e.values.map fun (name, number) => (avoidKeyword name, number)

namespace EnumPlan

/-- The lines of the class. -/
def textLines (e : EnumPlan) : List String :=
  ["", "", "class " ++ e.className ++ "(enum.IntEnum):"] ++
    (if e.members.isEmpty then ["    pass"]
     else e.members.map fun (name, number) => "    " ++ name ++ " = " ++ toString number)

end EnumPlan

namespace MessagePlan

/-- Each fragment moved right, or `pass` if there is none. -/
def blockOrPass (width : Nat) (fragments : List String) : List String :=
  let margin := String.ofList (List.replicate width ' ')
  if fragments.isEmpty then [margin ++ "pass"]
  else fragments.map fun text => margin ++ indent width text

/-- The lines of the class that holds the field numbers. -/
def wireLines (m : MessagePlan) : List String :=
  ["", "", "class " ++ m.wireName ++ ":"] ++
    (if m.fields.isEmpty then ["    pass"]
     else (m.fragments .wireConst).map ("    " ++ ·))

/-- The lines of the class that writes. -/
def writerLines (m : MessagePlan) : List String :=
  ["", "", "@dataclass", "class " ++ m.name ++ ":"] ++
  (m.fragments .writerField).map ("    " ++ ·) ++
  ["",
   "    def calc_protobuf_size(self) -> int:",
   "        res = 0"] ++
  (m.fragments .sizeCheck).map (fun text => "        " ++ indent 8 text) ++
  ["        return res",
   "",
   "    def encode_to(self, target: wire.Writer) -> None:"] ++
  blockOrPass 8 (m.fragments .writer) ++
  ["",
   "    def encode(self) -> bytes:",
   "        target = wire.Writer()",
   "        self.encode_to(target)",
   "        return target.to_bytes()"]

/-- The lines that set a reader up, with or without an allocator. -/
def setupLines (m : MessagePlan) : List String :=
  if m.needsAllocator then
    ["    def __init__(self, buf: wire.Buffer, allocator: wire.Allocator) -> None:",
     "        self.buf = buf",
     "        self._allocator = allocator",
     "",
     "    @classmethod",
     "    def decode(cls, data: bytes, allocator: wire.Allocator) -> \"" ++ m.readerName ++ "\":",
     "        buf = wire.Buffer(data)",
     "        res = cls(buf, allocator)"]
  else
    ["    def __init__(self, buf: wire.Buffer) -> None:",
     "        self.buf = buf",
     "",
     "    @classmethod",
     "    def decode(cls, data: bytes) -> \"" ++ m.readerName ++ "\":",
     "        buf = wire.Buffer(data)",
     "        res = cls(buf)"]

/-- The lines of the class that reads. -/
def readerLines (m : MessagePlan) : List String :=
  ["", "", "class " ++ m.readerName ++ ":"] ++
  (m.fragments .readerFields).map (fun text => "    " ++ indent 4 text) ++
  [""] ++ m.setupLines ++
  ["        offset = 0",
   "        try:",
   "            while buf.has_next(offset):",
   "                tag = buf.read_tag_at(offset)",
   "                offset += tag.size"] ++
  (m.fragments .readerCase).map (fun text => "                " ++ indent 16 text) ++
  ["                offset = buf.skip_data(offset, tag.wire)",
   "        except wire.DecodeError:",
   "            res.close()",
   "            raise",
   "        return res"] ++
  (m.fragments .readerMethod).flatMap (fun text => ["", "    " ++ indent 4 text]) ++
  ["",
   "    def close(self) -> None:"] ++
  blockOrPass 8 (m.fragments .readerClose)

/-- The lines of the three classes. -/
def textLines (m : MessagePlan) : List String := m.wireLines ++ m.writerLines ++ m.readerLines

end MessagePlan

namespace ModulePlan

/-- The lines before the first class. -/
def headerLines (p : ModulePlan) : List String :=
  ["# Generated by protoc-wire-py from " ++ p.source ++ ". DO NOT EDIT.",
   "import enum",
   "from dataclasses import dataclass",
   "from typing import List, Optional",
   "",
   "from " ++ p.runtimePackage ++ " import wire"]

/-- The lines of the module. -/
def textLines (p : ModulePlan) : List String :=
  p.headerLines ++ p.enums.flatMap EnumPlan.textLines ++ p.messages.flatMap MessagePlan.textLines

/-- The text of the module; every line ends in a line feed. -/
def text (p : ModulePlan) : String := String.join (p.textLines.map (· ++ "\n"))

/-- Plans the module of a file. -/
def build (file : SchemaFile) (options : Options) : Gen ModulePlan := do
  let scope ← EnumScope.ofFile file
  let messages ← file.messages.mapM (MessagePlan.build scope file.package options)
  let enums ← file.enums.mapM fun e => do
    let className ← Gen.ofExcept (scope.classOf e.fullName)
    return EnumPlan.ofDecl className e
  return { source := file.name, runtimePackage := options.runtimePackage, enums, messages }

/-- The module of a file, and what was reported on the way. -/
def generate (file : SchemaFile) (options : Options) :
    Except GenError ModulePlan × List LogEntry :=
  match build file options {} with
  | .ok plan s => (.ok plan, s.log)
  | .error e s => (.error e, s.log)

end ModulePlan
end WireSchema
