import CompilerDriver.Path.Basic
import CompilerDriver.Personality

/-!
# What the command line can ask for

There are four commands. What the driver would do with some arguments is shown by `plan` and `fingerprint`,
and `showRecord` and `checkRecord` look at the record of a build. Each of them can be given a file with
settings.
-/

namespace CompilerDriver.CommandLine

/-- A command of the program. The `arguments` are those of a driver. -/
inductive Command where
  /-- How the driver compiles, and what it makes. -/
  | plan (personality : Option Personality) (executable : Option String) (asJson : Bool)
    (arguments : List String)
  | fingerprint (arguments : List String)
  /-- What stands in a record. -/
  | showRecord (record : Path) (asJson : Bool)
  /-- Whether a record can be used with some arguments. -/
  | checkRecord (record : Path) (swiftVersion : Option String) (arguments : List String)
deriving DecidableEq, Repr

/-- A command with the file that holds its settings. -/
structure Invocation where
  config : Option Path
  command : Command
deriving DecidableEq, Repr

/-- What a command line asks for. -/
inductive Request where
  | run (invocation : Invocation)
  | help
  | version
deriving DecidableEq, Repr

/-- The files that an invocation reads, in this order. -/
def Invocation.files (invocation : Invocation) : List Path :=
  invocation.config.toList ++
    match invocation.command with
    | .showRecord record _ => [record]
    | .checkRecord record _ _ => [record]
    | _ => []

/-- What is wrong with a command line. -/
inductive UsageError where
  | unknownOption (word : String)
  | missingValue (option : String)
  | unexpectedValue (option : String)
  | repeatedOption (option : String)
  | badValue (option value : String)
  | unexpectedWord (word : String)
  | missingWord
  | missingCommand
  | conflict (option other : String)
deriving DecidableEq, Repr

/-- The wording of an error. -/
def UsageError.message : UsageError → String
  | .unknownOption word => s!"unexpected argument '{word}' found"
  | .missingValue option => s!"a value is required for '--{option}' but none was supplied"
  | .unexpectedValue option => s!"unexpected value for '--{option}' found; no more were expected"
  | .repeatedOption option => s!"the argument '--{option}' cannot be used multiple times"
  | .badValue option value => s!"invalid value '{value}' for '--{option}'"
  | .unexpectedWord word => s!"unexpected argument '{word}' found"
  | .missingWord => "the following required arguments were not provided: <PATH>"
  | .missingCommand => "a command is required but none was provided"
  | .conflict option other =>
    s!"the argument '--{option}' cannot be used with '--{other}'"

end CompilerDriver.CommandLine
