/-
# What descriptors are made of

A descriptor set nests messages of some twenty kinds. Only a few kinds say
something about the schema; the others hold options, comments and reserved
numbers. Their blocks are read all the same, since a fault in one of them is
a fault of the set, and since every message that is entered takes a level.
For each kind of message this module lists the fields whose blocks hold a
message, and those whose blocks hold numbers one after the other. A block of
any other field is a text or is not known, and is passed over.

Key definitions: `DescriptorKind`, `DescriptorKind.parts`,
`DescriptorKind.numberLists`.
-/

namespace WireSchema

/-- The kinds of message in a descriptor set. -/
inductive DescriptorKind where
  | set | file | message | field | oneof | enum | enumValue | service | method
  | extensionRange | sourceInfo | location
  | fileOptions | messageOptions | fieldOptions | oneofOptions | enumOptions
  | enumValueOptions | serviceOptions | methodOptions | rangeOptions
  /-- An option that the schema compiler did not know. -/
  | unknownOption
  /-- Any kind of message that holds no further messages. -/
  | leaf
deriving DecidableEq, Repr

namespace DescriptorKind

/-- The fields whose blocks are messages, and the kinds of those. -/
def parts : DescriptorKind → List (Nat × DescriptorKind)
  | set => [(1, file)]
  | file =>
    [(4, message), (5, enum), (6, service), (7, field), (8, fileOptions), (9, sourceInfo)]
  | message =>
    [(2, field), (3, message), (4, enum), (5, extensionRange), (6, field), (7, messageOptions),
      (8, oneof), (9, leaf)]
  | field => [(8, fieldOptions)]
  | oneof => [(2, oneofOptions)]
  | enum => [(2, enumValue), (3, enumOptions), (4, leaf)]
  | enumValue => [(3, enumValueOptions)]
  | service => [(2, method), (3, serviceOptions)]
  | method => [(4, methodOptions)]
  | extensionRange => [(3, rangeOptions)]
  | sourceInfo => [(1, location)]
  | fileOptions => [(50, leaf), (999, unknownOption)]
  | messageOptions => [(12, leaf), (999, unknownOption)]
  | fieldOptions => [(20, leaf), (21, leaf), (22, leaf), (999, unknownOption)]
  | oneofOptions => [(1, leaf), (999, unknownOption)]
  | enumOptions => [(7, leaf), (999, unknownOption)]
  | enumValueOptions => [(2, leaf), (4, leaf), (999, unknownOption)]
  | serviceOptions => [(34, leaf), (999, unknownOption)]
  | methodOptions => [(35, leaf), (999, unknownOption)]
  | rangeOptions => [(2, leaf), (50, leaf), (999, unknownOption)]
  | unknownOption => [(2, leaf)]
  | location | leaf => []

/-- The fields whose blocks are numbers. -/
def numberLists : DescriptorKind → List Nat
  | file => [10, 11]
  | location => [1, 2]
  | fieldOptions => [19]
  | _ => []

end DescriptorKind
end WireSchema
