/-
# Reading the command line

Arguments are read in two passes. The first one tells options from values:
an option may be shortened as long as it stays unique, carries its value
behind an equals sign, or, after a single dash, stands together with others.
The second one goes through the options in order and gives each what it
needs. Arguments that nothing asked for are complained about in the end. The
separator in place of a value, as in `--out=--`, leaves the value blank.

Key definitions: `Flag`, `Token`, `classify`, `consume`, `Settings`,
`UsageError`, `parseArguments`.
-/

import WireSchema.Run.World
import WireSchema.Text.DecimalDigit

namespace WireSchema
namespace CommandLine

/-- The options of the program. -/
inductive Flag where
  | help | proto | descriptorSet | out | includeDir | runtimePackage | verbose
deriving DecidableEq, Repr

namespace Flag

/-- All options, in the order of the usage text. -/
def all : List Flag := [help, proto, descriptorSet, out, includeDir, runtimePackage, verbose]

/-- How an option is written. -/
def spellings : Flag → List String
  | help => ["-h", "--help"]
  | proto => ["--proto"]
  | descriptorSet => ["--descriptor-set"]
  | out => ["--out"]
  | includeDir => ["-I", "--include"]
  | runtimePackage => ["--runtime-package"]
  | verbose => ["-v", "--verbose"]

/-- How error texts name an option. -/
def title (f : Flag) : String := "/".intercalate f.spellings

/-- Whether a value belongs to the option. -/
def takesValue : Flag → Bool
  | help | verbose => false
  | _ => true

/-- Every spelling with its option. -/
def table : List (String × Flag) := all.flatMap fun f => f.spellings.map fun s => (s, f)

/-- The option of a spelling. -/
def ofSpelling? (text : String) : Option Flag := table.lookup text

end Flag

/-- What is wrong with a command line. -/
inductive UsageError where
  | ambiguous (argument : String) (candidates : List String)
  | unwantedValue (flag : Flag) (value : String)
  | missingValue (flag : Flag)
  | conflict (flag other : Flag)
  | missingOut
  | missingSource
  | unrecognized (arguments : List String)
deriving DecidableEq, Repr

/-- The text of the error. -/
def UsageError.message : UsageError → String
  | ambiguous argument candidates =>
    "ambiguous option: " ++ argument ++ " could match " ++ ", ".intercalate candidates
  | unwantedValue flag value =>
    "argument " ++ flag.title ++ ": ignored explicit argument " ++ quoted value
  | missingValue flag => "argument " ++ flag.title ++ ": expected one argument"
  | conflict flag other =>
    "argument " ++ flag.title ++ ": not allowed with argument " ++ other.title
  | missingOut => "the following arguments are required: " ++ Flag.out.title
  | missingSource =>
    "one of the arguments " ++ Flag.proto.title ++ " " ++ Flag.descriptorSet.title ++
      " is required"
  | unrecognized arguments => "unrecognized arguments: " ++ " ".intercalate arguments

/-- An option as an argument mentions it, and the text that stands in one
argument with it: behind an equals sign, or directly behind a single-dash
option. -/
structure Mention where
  flag : Flag
  spelling : String
  attached : Option String
deriving DecidableEq, Repr

/-- What an argument is. -/
inductive Token where
  | value (text : String)
  | separator
  | unknown (text : String)
  | option (mention : Mention)
deriving DecidableEq, Repr

/-- The text before the first equals sign, and the text behind it if there is
one. -/
def splitAssignment (text : List Char) : List Char × Option (List Char) :=
  match text.dropWhile (· != '=') with
  | [] => (text, none)
  | _ :: value => (text.takeWhile (· != '='), some value)

/-- The options that an argument with two dashes may mean. -/
def longMentions (text : List Char) : List Mention :=
  let (name, value) := splitAssignment text
  Flag.table.filterMap fun (spelling, flag) =>
    if name.isPrefixOf spelling.toList then
      some ⟨flag, spelling, value.map String.ofList⟩
    else none

/-- The options that an argument with a single dash may mean. -/
def shortMentions (text : List Char) : List Mention :=
  Flag.table.filterMap fun (spelling, flag) =>
    if spelling.toList = text.take 2 then
      some ⟨flag, spelling, some (String.ofList (text.drop 2))⟩
    else if text.isPrefixOf spelling.toList then some ⟨flag, spelling, none⟩
    else none

/-- The options that an argument may mean, if no spelling fits it exactly. -/
def mentions (text : List Char) : List Mention :=
  match text with
  | '-' :: '-' :: _ => longMentions text
  | _ => shortMentions text

/-- A text without a line feed at its end. -/
def dropLineFeed (text : List Char) : List Char :=
  if text.getLast? = some '\n' then text.dropLast else text

/-- Whether an argument reads like a negative number. -/
def looksNegative (text : List Char) : Bool :=
  match dropLineFeed text with
  | '-' :: rest =>
    let whole := rest.takeWhile decimalDigitSet.has
    match rest.dropWhile decimalDigitSet.has with
    | [] => !whole.isEmpty
    | c :: fraction => c == '.' && !fraction.isEmpty && fraction.all decimalDigitSet.has
  | _ => false

/-- The option whose spelling stands before the equals sign. -/
def assignedMention? (text : List Char) : Option Mention :=
  match splitAssignment text with
  | (name, some value) =>
    (Flag.ofSpelling? (String.ofList name)).map fun flag =>
      ⟨flag, String.ofList name, some (String.ofList value)⟩
  | (_, none) => none

/-- What an argument is that is not the separator. -/
def classify (argument : String) : Except UsageError Token :=
  let text := argument.toList
  if text.head? != some '-' then .ok (.value argument)
  else
    match Flag.ofSpelling? argument with
    | some flag => .ok (.option ⟨flag, argument, none⟩)
    | none =>
      if text.length = 1 then .ok (.value argument)
      else
        match assignedMention? text with
        | some m => .ok (.option m)
        | none =>
          match mentions text with
          | [m] => .ok (.option m)
          | [] =>
            if looksNegative text || text.contains ' ' then .ok (.value argument)
            else .ok (.unknown argument)
          | several => .error (.ambiguous argument (several.map (·.spelling)))

/-- What the arguments are. Behind the separator all are values. -/
def classifyAll : List String → Except UsageError (List Token)
  | [] => .ok []
  | argument :: rest =>
    if argument = "--" then .ok (.separator :: rest.map .value)
    else do
      let token ← classify argument
      let tokens ← classifyAll rest
      .ok (token :: tokens)

/-- What an argument asks for: options with their values in order, perhaps
followed by an option that looks for its value in the next argument. -/
structure Expansion where
  actions : List (Flag × Option String) := []
  pending : Option Flag := none
deriving DecidableEq, Repr

/-- An option, and then what the expansion asks for. -/
def Expansion.cons (flag : Flag) (e : Expansion) : Expansion :=
  { e with actions := (flag, none) :: e.actions }

/-- What an option asks for with text attached to it. An option that takes a
value takes the text. Any other one must be written with a single dash and
leave the text to further options of one letter. -/
def expand (flag : Flag) (single : Bool) (text : List Char) : Except UsageError Expansion :=
  if flag.takesValue then .ok { actions := [(flag, some (String.ofList text))] }
  else
    match text with
    | [] => .error (.unwantedValue flag "")
    | c :: tail =>
      match single, Flag.ofSpelling? (String.ofList ['-', c]) with
      | true, some next =>
        if tail.isEmpty then .ok { actions := [(flag, none)], pending := some next }
        else (expand next true tail).map (·.cons flag)
      | _, _ => .error (.unwantedValue flag (String.ofList (c :: tail)))

/-- Whether the option is written with a single dash. -/
def Mention.isSingle (m : Mention) : Bool :=
  match m.spelling.toList with
  | '-' :: '-' :: _ => false
  | _ => true

/-- What a mentioned option asks for. -/
def Mention.expansion (m : Mention) : Except UsageError Expansion :=
  match m.attached with
  | none => .ok { pending := some m.flag }
  | some text => expand m.flag m.isSingle text.toList

/-- The value that a text gives to an option. -/
def valueOf (text : String) : Given := if text = "--" then .blank else .text text

/-- The directories that a value adds to the search; a blank one adds none. -/
def searched : Given → List String
  | .text dir => [dir]
  | .blank => []

/-- What the command line sets. -/
structure Settings where
  proto : Option Given := none
  descriptorSet : Option Given := none
  out : Option Given := none
  includes : List String := []
  runtimePackage : String := (({} : Options)).runtimePackage
  verbose : Bool := false
deriving DecidableEq, Repr

/-- Why reading ends early. -/
inductive Stop where
  | help
  | error (e : UsageError)
deriving DecidableEq, Repr

/-- Sets an option to a value. The two sources of descriptors exclude each
other. -/
def Settings.assign (s : Settings) (value : Given) : Flag → Except Stop Settings
  | .help => .error .help
  | .verbose => .ok { s with verbose := true }
  | .proto =>
    if s.descriptorSet.isSome then .error (.error (.conflict .proto .descriptorSet))
    else .ok { s with proto := some value }
  | .descriptorSet =>
    if s.proto.isSome then .error (.error (.conflict .descriptorSet .proto))
    else .ok { s with descriptorSet := some value }
  | .out => .ok { s with out := some value }
  | .includeDir => .ok { s with includes := s.includes ++ searched value }
  | .runtimePackage => .ok { s with runtimePackage := value.shown }

/-- Carries out one option; one that takes no value is given none. -/
def Settings.apply (s : Settings) : Flag × Option String → Except Stop Settings
  | (flag, text) => s.assign ((text.map valueOf).getD .blank) flag

/-- Carries out options in order. -/
def Settings.applyAll (s : Settings) (actions : List (Flag × Option String)) :
    Except Stop Settings :=
  actions.foldlM Settings.apply s

/-- Goes through the tokens. The arguments that nothing asked for are
collected. -/
def consume : List Token → Settings → List String → Except Stop (Settings × List String)
  | [], s, extras => .ok (s, extras)
  | .value text :: rest, s, extras => consume rest s (extras ++ [text])
  | .separator :: rest, s, extras => consume rest s (extras ++ ["--"])
  | .unknown text :: rest, s, extras => consume rest s (extras ++ [text])
  | .option m :: rest, s, extras => do
    let e ← m.expansion.mapError .error
    match e.pending with
    | none => do
      let s ← s.applyAll e.actions
      consume rest s extras
    | some flag =>
      if flag.takesValue then
        match rest with
        | .value text :: rest' => do
          let s ← s.applyAll (e.actions ++ [(flag, some text)])
          consume rest' s extras
        | _ => .error (.error (.missingValue flag))
      else do
        let s ← s.applyAll (e.actions ++ [(flag, none)])
        consume rest s extras

/-- A complete command line. -/
structure Arguments where
  settings : Settings
  out : Given
deriving DecidableEq, Repr

/-- Checks that nothing is missing and nothing is left over, in this order. -/
def complete (s : Settings) (extras : List String) : Except UsageError Arguments :=
  match s.out with
  | none => .error .missingOut
  | some out =>
    if s.proto.isNone && s.descriptorSet.isNone then .error .missingSource
    else if !extras.isEmpty then .error (.unrecognized extras)
    else .ok ⟨s, out⟩

/-- Reads the command line. -/
def parseArguments (arguments : List String) : Except Stop Arguments := do
  let tokens ← (classifyAll arguments).mapError .error
  let (s, extras) ← consume tokens {} []
  (complete s extras).mapError .error

end CommandLine
end WireSchema
