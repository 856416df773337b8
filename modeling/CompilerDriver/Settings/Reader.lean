import CompilerDriver.Settings.Basic
import CompilerDriver.Storage.Basic
import CompilerDriver.Toml.Parser

/-!
# Reading settings

A configuration holds a text for each setting, and no other keys. The personality can also be written as a
table, in which its name is the only key and stands for nothing more.
-/

namespace CompilerDriver

/-- Why there are no settings to be had from a file. -/
inductive SettingsError where
  | notRead (e : StorageError)
  /-- The text is no configuration, or one that says something else. -/
  | notParsed
  | invalid (fault : SettingsFault)
deriving DecidableEq, Repr

/-- The wording of an error. -/
def SettingsError.message : SettingsError → String
  | .notRead e => s!"Failed to read config file: {e.message}"
  | .notParsed => "Failed to parse TOML: the text is not a configuration"
  | .invalid fault => s!"Validation error: {fault.message}"

namespace Settings

/-- The keys of a configuration. -/
def keys : List String := ["swift_version", "working_directory", "driver_kind", "log_filter"]

/-- The text of a key, where it has a value. -/
def textOf (entries : TomlEntries) (key : String) : Option (Option String) :=
  match entries.get? key with
  | none => some none
  | some (.text value) => some (some value)
  | some _ => none

/-- Whether a value says nothing. -/
def isVoid : Toml → Bool
  | .emptyList => true
  | .table _ [] => true
  | _ => false

/-- The personality that a value names. -/
def personalityOf? : Toml → Option Personality
  | .text name => Personality.all.find? fun p => p.name == name
  | .table _ [(name, value)] =>
    if isVoid value then Personality.all.find? fun p => p.name == name else none
  | _ => none

/-- The settings of a configuration. -/
def ofEntries? (entries : TomlEntries) : Option Settings := do
  if entries.any fun entry => !keys.contains entry.1 then none
  return {
    swiftVersion := ← textOf entries "swift_version"
    workingDirectory := (← textOf entries "working_directory").map Path.ofString
    personality := ← match entries.get? "driver_kind" with
      | none => some none
      | some value => (personalityOf? value).map some
    logFilter := ← textOf entries "log_filter" }

/-- Settings, unless something is wrong with them. -/
def check (settings : Settings) : Except SettingsError Settings :=
  match settings.fault? with
  | none => .ok settings
  | some fault => .error (.invalid fault)

/-- The settings that a text holds. -/
def ofText (text : String) : Except SettingsError Settings :=
  match (Toml.ofText? text).bind ofEntries? with
  | some settings => settings.check
  | none => .error .notParsed

/-- The settings that the bytes of a file hold, if the file could be read. -/
def ofFile (contents : Except StorageError Bytes) : Except SettingsError Settings :=
  match contents.bind Storage.textOf with
  | .ok text => ofText text
  | .error e => .error (.notRead e)

end Settings

end CompilerDriver
