/-
# Messages to the user

Every part of the program that reports something does so under its own name.

Key definitions: `LogLevel`, `LogSource`, `LogEntry`.
-/

namespace WireSchema

/-- How important an entry is. -/
inductive LogLevel where
  | debug | warning
deriving DecidableEq, Repr

/-- The word for the level. -/
def LogLevel.label : LogLevel → String
  | debug => "DEBUG"
  | warning => "WARNING"

/-- The part of the program that reports. -/
inductive LogSource where
  | run | generator | loader
deriving DecidableEq, Repr

/-- The name a part reports under. -/
def LogSource.label : LogSource → String
  | run => "protoc_wire.main"
  | generator => "protoc_wire.generator.message_generator"
  | loader => "protoc_wire.parser.descriptor_loader"

/-- One report. -/
structure LogEntry where
  level : LogLevel
  source : LogSource
  text : String
deriving DecidableEq, Repr

/-- The line that shows an entry. -/
def LogEntry.line (e : LogEntry) : String :=
  e.level.label ++ " " ++ e.source.label ++ ": " ++ e.text

end WireSchema
