import CompilerDriver.BuildRecord.Codec
import CompilerDriver.BuildRecord.Mismatch
import CompilerDriver.BuildRecord.Summary
import CompilerDriver.CommandLine.Reader
import CompilerDriver.Fingerprint
import CompilerDriver.LogFilter
import CompilerDriver.Plan
import CompilerDriver.Settings.Reader

/-!
# Running commands

What the program prints, and the code it exits with: 0 if all went well, 1 if something failed or a record
cannot be used, 2 if the command line asks for nothing that there is. What the program reads is handed to it
as a function from paths to contents.
-/

namespace CompilerDriver.CommandLine

/-- What the program leaves behind. -/
structure Outcome where
  exitCode : Nat
  output : String
  errors : String
deriving DecidableEq, Repr

namespace Outcome

/-- Some lines, each with its end. -/
def textOf (lines : List String) : String :=
  String.join (lines.map fun line => line ++ "\n")

/-- All went well. -/
def success (lines : List String) : Outcome := ⟨0, textOf lines, ""⟩

/-- Something failed. -/
def failure (line : String) : Outcome := ⟨1, "", textOf [line]⟩

/-- Puts lines in front of what an outcome says of errors. -/
def warn (lines : List String) (outcome : Outcome) : Outcome :=
  { outcome with errors := textOf lines ++ outcome.errors }

/-- A JSON value on the output, with the members of objects in the order of their names. -/
def json (value : Json) : Outcome := success [value.sortMembers.pretty]

end Outcome

/-- The name and version of the program. -/
def versionLine : String := "swift-driver-plan 0.1.0"

/-- How the program is used. -/
def helpLines : List String :=
  ["Inspect Swift driver planning decisions and build records",
    "",
    "Usage: swift-driver-plan [OPTIONS] <COMMAND>",
    "",
    "Commands:",
    "  plan         Resolve compiler mode and output kinds for a driver invocation",
    "  fingerprint  Print the argument fingerprint of a driver invocation",
    "  record       Build record commands",
    "  help         Print this message or the help of the given subcommand(s)",
    "",
    "Options:",
    "      --config <CONFIG>  Path to a TOML config file",
    "  -h, --help             Print help",
    "  -V, --version          Print version"]

/-- What a command comes to: its outcome, or the line that says what failed. -/
abbrev Result := Except String Outcome

/-- The options that the arguments of a driver give. -/
def optionsOf (arguments : List String) : Except String Occurrences :=
  (Occurrences.read arguments).mapError fun e => s!"error: {e.message}"

/-- Shows the plan for some arguments. An executable that is named settles the personality, perhaps together
with the first argument; without one the settings do. -/
def plan (settings : Settings) (executable : Option String) (asJson : Bool)
    (arguments : List String) : Result := do
  let (personality, arguments) ← match executable with
    | some executable =>
      (Personality.ofInvocation (executable :: arguments)).mapError fun e => s!"error: {e.message}"
    | none => .ok (settings.personality.getD .batch, arguments)
  let plan := Plan.of personality (← optionsOf arguments)
  return if asJson then .json plan.toJson else .success plan.lines

/-- Shows the fingerprint of some arguments. -/
def showFingerprint (arguments : List String) : Result := do
  return .success [fingerprint (← optionsOf arguments)]

/-- The record in a file. -/
def recordOf (path : Path) (contents : Except StorageError Bytes) : Except String BuildRecord := do
  let text ← (contents.bind Storage.textOf).mapError fun e =>
    s!"Error reading {path.display}: {e.message}"
  (BuildRecord.decode text).mapError fun e => s!"Error decoding {path.display}: {e.message}"

/-- Shows what stands in a record. -/
def showRecord (path : Path) (asJson : Bool) (contents : Except StorageError Bytes) : Result := do
  let record ← recordOf path contents
  return if asJson then .json record.summary else .success (record.summaryLines path)

/-- The inputs of a compilation with some options, in the working directory of some settings. -/
def currentInputs (settings : Settings) (given : Occurrences) : List TypedPath :=
  let inputs := given.inputs.map fun input =>
    match settings.workingDirectory with
    | some dir => TypedPath.ofInput (dir.join (.ofString input))
    | none => TypedPath.ofInput (.ofString input)
  inputs.filter fun input => input.type.isCompiled

/-- Why a record cannot be used with some options, under some settings. -/
def mismatch? (settings : Settings) (record : BuildRecord) (given : Occurrences) : Option Mismatch :=
  record.mismatch? settings.effectiveSwiftVersion (fingerprint given) (currentInputs settings given)

/-- Tells whether a record can be used with some arguments. -/
def checkRecord (settings : Settings) (path : Path) (arguments : List String)
    (contents : Except StorageError Bytes) : Result := do
  let record ← recordOf path contents
  let given ← optionsOf arguments
  return match mismatch? settings record given with
    | none => .success [s!"Build record is reusable: {path.display}"]
    | some mismatch =>
      ⟨1, Outcome.textOf [s!"Build record would be discarded: {mismatch.message}"], ""⟩

/-- The settings in a file, if one is named. -/
def settingsOf (config : Option Path) (read : Path → Except StorageError Bytes) :
    Except String Settings :=
  match config with
  | none => .ok {}
  | some path =>
    (Settings.ofFile (read path)).mapError fun e =>
      s!"Error loading config {path.display}: {e.message}"

/-- What a command comes to under some settings. -/
def resultOf (settings : Settings) (command : Command) (read : Path → Except StorageError Bytes) :
    Result :=
  match command with
  | .plan personality executable asJson arguments =>
    plan (settings.override { personality := personality }) executable asJson arguments
  | .fingerprint arguments => showFingerprint arguments
  | .showRecord record asJson => showRecord record asJson (read record)
  | .checkRecord record swiftVersion arguments =>
    checkRecord (settings.override { swiftVersion := swiftVersion }) record arguments (read record)

/-- Runs a command under the settings that go with it. Before all else the user is told what in the log
filter of the settings cannot be read. -/
def Invocation.run (invocation : Invocation) (read : Path → Except StorageError Bytes) : Outcome :=
  match settingsOf invocation.config read with
  | .error line => .failure line
  | .ok settings =>
    let outcome := match resultOf settings invocation.command read with
      | .ok outcome => outcome
      | .error line => .failure line
    outcome.warn (LogFilter.complaints settings.effectiveLogFilter)

/-- Runs the program on a command line. -/
def run (words : List String) (read : Path → Except StorageError Bytes) : Outcome :=
  match CommandLine.read words with
  | .error e => ⟨2, "", Outcome.textOf [s!"error: {e.message}"]⟩
  | .ok .help => .success helpLines
  | .ok .version => .success [versionLine]
  | .ok (.run invocation) => invocation.run read

end CompilerDriver.CommandLine
