import CompilerDriver.CommandLine.Request

/-!
# Reading the command line

A command line consists of up to three stretches: what stands before the command, behind it, and behind the
command of a command. Every stretch has its own options, and a stretch ends with the name of the next one's
command or with the words. `--` makes plain words of all that follows.

An option is given once in a stretch. Its value is the next word, unless that looks like an option itself,
or stands behind an equals sign.
-/

namespace CompilerDriver.CommandLine

/-- The options of the program. -/
inductive LongOption where
  | config
  | driverKind
  | executable
  | json
  | swiftVersion
  | help
  | version
deriving DecidableEq, Repr

namespace LongOption

def all : List LongOption := [.config, .driverKind, .executable, .json, .swiftVersion, .help, .version]

/-- The name of an option, which two dashes precede. -/
def name : LongOption → String
  | .config => "config"
  | .driverKind => "driver-kind"
  | .executable => "executable"
  | .json => "json"
  | .swiftVersion => "swift-version"
  | .help => "help"
  | .version => "version"

/-- The letter that one dash precedes, if an option has one. -/
def letter? : LongOption → Option Char
  | .help => some 'h'
  | .version => some 'V'
  | _ => none

/-- Whether an option has a value. -/
def takesValue : LongOption → Bool
  | .config | .driverKind | .executable | .swiftVersion => true
  | .json | .help | .version => false

end LongOption

/-- The stretches of a command line. -/
inductive Stretch where
  /-- What stands before the command. -/
  | start
  | plan
  | fingerprint
  /-- What stands behind `record`, before its command. -/
  | record
  | showRecord
  | checkRecord
deriving DecidableEq, Repr

namespace Stretch

/-- The options of a stretch. -/
def options : Stretch → List LongOption
  | .start => [.config, .help, .version]
  | .plan => [.config, .driverKind, .executable, .json, .help]
  | .fingerprint => [.config, .help]
  | .record => [.config, .help]
  | .showRecord => [.config, .json, .help]
  | .checkRecord => [.config, .swiftVersion, .help]

/-- The stretch that begins with a command. -/
def command? : Stretch → String → Option Stretch
  | .start, "plan" => some .plan
  | .start, "fingerprint" => some .fingerprint
  | .start, "record" => some .record
  | .record, "show" => some .showRecord
  | .record, "check" => some .checkRecord
  | _, _ => none

/-- Whether commands follow a stretch. -/
def hasCommands : Stretch → Bool
  | .start | .record => true
  | _ => false

/-- Whether some words, one behind the other, name a command that can be asked about. -/
def namesCommand : Stretch → List String → Bool
  | _, [] => true
  | stretch, word :: rest =>
    match stretch.command? word with
    | some next => next.namesCommand rest
    | none => stretch.hasCommands && word == "help" && rest.isEmpty

/-- Whether a stretch names the file of a record. -/
def takesRecord : Stretch → Bool
  | .showRecord | .checkRecord => true
  | _ => false

/-- Whether the words behind `--` are the arguments of a driver. -/
def takesArguments : Stretch → Bool
  | .plan | .fingerprint | .checkRecord => true
  | _ => false

end Stretch

/-- What a stretch gives. -/
structure Given where
  config : Option Path := none
  personality : Option Personality := none
  executable : Option String := none
  asJson : Bool := false
  swiftVersion : Option String := none
  record : Option Path := none
  arguments : List String := []

/-- Why the reader stops before the end. -/
inductive Stop where
  | help
  | version
  | error (e : UsageError)

/-- What a word is. -/
inductive WordForm where
  /-- Two dashes and nothing else. -/
  | separator
  /-- An option by its name, with what stands behind an equals sign. -/
  | long (name : String) (value : Option String)
  /-- An option by its letter. Other letters may follow. -/
  | short (letter : Char)
  | plain

/-- What a word is. A single dash is a plain word. -/
def WordForm.of (word : String) : WordForm :=
  match word.toList with
  | ['-', '-'] => .separator
  | '-' :: '-' :: rest =>
    let name := String.ofList (rest.takeWhile (· != '='))
    match rest.dropWhile (· != '=') with
    | [] => .long name none
    | _ :: value => .long name (some (String.ofList value))
  | '-' :: letter :: _ => .short letter
  | _ => .plain

/-- The option of a stretch that a word names. -/
def optionOf? (stretch : Stretch) (name : String) : Option LongOption :=
  stretch.options.find? fun option => option.name == name

/-- The option of a stretch that has a letter. -/
def optionOfLetter? (stretch : Stretch) (letter : Char) : Option LongOption :=
  stretch.options.find? fun option => option.letter? == some letter

namespace Given

/-- Sets what may be set once. -/
def setOnce {α : Type} (option : LongOption) (current : Option α) (value : α) : Except Stop (Option α) :=
  match current with
  | none => .ok (some value)
  | some _ => .error (.error (.repeatedOption option.name))

/-- A path is not empty. -/
def pathOf (option : LongOption) (value : String) : Except Stop Path :=
  if value.isEmpty then .error (.error (.missingValue option.name)) else .ok (.ofString value)

/-- Notes the value of an option. -/
def setValue (given : Given) (option : LongOption) (value : String) : Except Stop Given := do
  match option with
  | .config =>
    let path ← pathOf option value
    return { given with config := ← setOnce option given.config path }
  | .driverKind =>
    match Personality.ofName value with
    | .ok p => return { given with personality := ← setOnce option given.personality p }
    | .error _ => .error (.error (.badValue option.name value))
  | .executable => return { given with executable := ← setOnce option given.executable value }
  | .swiftVersion => return { given with swiftVersion := ← setOnce option given.swiftVersion value }
  | _ => .error (.error (.unexpectedValue option.name))

/-- Notes an option that has no value. -/
def setFlag (given : Given) (option : LongOption) : Except Stop Given :=
  match option with
  | .help => .error .help
  | .version => .error .version
  | .json =>
    if given.asJson then .error (.error (.repeatedOption option.name))
    else .ok { given with asJson := true }
  | _ => .error (.error (.missingValue option.name))

/-- Notes a plain word, which can only be the file of a record. -/
def addWord (given : Given) (stretch : Stretch) (word : String) : Except Stop Given :=
  if stretch.takesRecord && given.record.isNone then
    if word.isEmpty then .error (.error .missingWord)
    else .ok { given with record := some (.ofString word) }
  else .error (.error (.unexpectedWord word))

/-- Notes the words behind `--`. -/
def addRest (given : Given) (stretch : Stretch) (words : List String) : Except Stop Given :=
  if stretch.takesArguments then .ok { given with arguments := words }
  else words.foldlM (fun given word => given.addWord stretch word) given

end Given

/-- What stands behind a stretch: nothing, or another stretch with its words. -/
abbrev Continuation := Option (Stretch × List String)

/-- Reads a stretch. -/
def readStretch (stretch : Stretch) (given : Given) :
    List String → Except Stop (Given × Continuation)
  | [] => .ok (given, none)
  | word :: rest =>
    match stretch.command? word with
    | some next => .ok (given, some (next, rest))
    | none =>
      if stretch.hasCommands && word == "help" then
        .error (if stretch.namesCommand rest then .help else .error (.unexpectedWord word))
      else match WordForm.of word with
        | .separator => do return (← given.addRest stretch rest, none)
        | .plain => do readStretch stretch (← given.addWord stretch word) rest
        | .short letter =>
          match optionOfLetter? stretch letter with
          | some option => do readStretch stretch (← given.setFlag option) rest
          | none => .error (.error (.unknownOption word))
        | .long name value =>
          match optionOf? stretch name with
          | none => .error (.error (.unknownOption word))
          | some option =>
            match value, option.takesValue, rest with
            | some value, true, rest => do readStretch stretch (← given.setValue option value) rest
            | some _, false, _ => .error (.error (.unexpectedValue name))
            | none, false, rest => do readStretch stretch (← given.setFlag option) rest
            | none, true, [] => .error (.error (.missingValue name))
            | none, true, next :: rest =>
              match WordForm.of next with
              | .plain => do readStretch stretch (← given.setValue option next) rest
              | _ => .error (.error (.missingValue name))

/-- The command that the last stretch describes. -/
def commandOf (stretch : Stretch) (given : Given) : Except Stop Command :=
  match stretch with
  | .start | .record => .error (.error .missingCommand)
  | .plan =>
    if given.personality.isSome && given.executable.isSome then
      .error (.error (.conflict LongOption.executable.name LongOption.driverKind.name))
    else .ok (.plan given.personality given.executable given.asJson given.arguments)
  | .fingerprint => .ok (.fingerprint given.arguments)
  | .showRecord =>
    match given.record with
    | some record => .ok (.showRecord record given.asJson)
    | none => .error (.error .missingWord)
  | .checkRecord =>
    match given.record with
    | some record => .ok (.checkRecord record given.swiftVersion given.arguments)
    | none => .error (.error .missingWord)

/-- Reads a stretch and all behind it; there are `depth` of them at most. The settings that are named last
count. -/
def readFrom : (depth : Nat) → Stretch → List String → Except Stop Invocation
  | 0, _, _ => .error (.error .missingCommand)
  | depth + 1, stretch, words => do
    match ← readStretch stretch {} words with
    | (given, none) => return ⟨given.config, ← commandOf stretch given⟩
    | (given, some (next, rest)) =>
      let invocation ← readFrom depth next rest
      return { invocation with config := invocation.config.or given.config }

/-- What a command line asks for. -/
def read (words : List String) : Except UsageError Request :=
  match readFrom 3 .start words with
  | .ok invocation => .ok (.run invocation)
  | .error .help => .ok .help
  | .error .version => .ok .version
  | .error (.error e) => .error e

end CompilerDriver.CommandLine
