import CompilerDriver.Json.Reader
import CompilerDriver.Settings.Basic
import CompilerDriver.Wire.Path
import CompilerDriver.Wire.Plan

/-!
# Settings on the wire

Settings are written with all their fields, `null` where there is none. Unlike other records they may have no
fields besides.
-/

namespace CompilerDriver.Settings

/-- The fields of settings, in their order. -/
def fieldNames : List String := ["swift_version", "working_directory", "driver_kind", "log_filter"]

/-- The JSON form of settings, if the working directory has one. -/
def toJson? (settings : Settings) : Option Json := do
  let workingDirectory ← match settings.workingDirectory with
    | some dir => dir.toJson?
    | none => some .null
  return .record [("swift_version", .ofOption (settings.swiftVersion.map .text)),
    ("working_directory", workingDirectory),
    ("driver_kind", .ofOption (settings.personality.map Personality.toJson)),
    ("log_filter", .ofOption (settings.logFilter.map .text))]

/-- Whether a value has no members besides the fields of settings. -/
def hasOnlyFields : Json → Bool
  | .object members => members.all fun (name, _) => fieldNames.any fun field => name == some field
  | _ => true

def ofJson? (value : Json) : Option Settings := do
  if !hasOnlyFields value then none
  let [swiftVersion, workingDirectory, personality, logFilter] ← value.slots fieldNames | none
  return {
    swiftVersion := ← swiftVersion.optional Json.text?
    workingDirectory := ← workingDirectory.optional Path.ofJson?
    personality := ← personality.optional Personality.ofJson?
    logFilter := ← logFilter.optional Json.text? }

end CompilerDriver.Settings
