import CompilerDriver.Path.Basic
import CompilerDriver.Personality
import CompilerDriver.Text.Blank

/-!
# Settings

What a configuration file can say about planning. Every setting can be left out, and what the command line says
goes before what the file says. A text that is all blank says nothing and is refused, and so is a working
directory that would mean something else in another directory.
-/

namespace CompilerDriver

/-- The settings of the planner. -/
structure Settings where
  /-- The version of the compiler, as build records name it. -/
  swiftVersion : Option String := none
  /-- Where relative paths start. -/
  workingDirectory : Option Path := none
  personality : Option Personality := none
  /-- What goes into the log. -/
  logFilter : Option String := none
deriving DecidableEq, Repr

/-- What can be wrong with settings. -/
inductive SettingsFault where
  | blankSwiftVersion
  | relativeWorkingDirectory (path : Path)
  | blankLogFilter
deriving DecidableEq, Repr

/-- The wording of a fault. -/
def SettingsFault.message : SettingsFault → String
  | .blankSwiftVersion => "'swift_version' must not be empty"
  | .relativeWorkingDirectory path => s!"'working_directory' must be absolute, got '{path.display}'"
  | .blankLogFilter => "'log_filter' must not be empty"

namespace Settings

/-- The version that a compiler has which nobody names. -/
def defaultSwiftVersion : String := "swift-driver-plan 0.1.0"

/-- What goes into the log if nobody says. -/
def defaultLogFilter : String := "warn"

/-- The first fault of some settings. -/
def fault? (settings : Settings) : Option SettingsFault :=
  if settings.swiftVersion.any Text.isBlankText then some .blankSwiftVersion
  else match settings.workingDirectory.filter fun dir => !dir.isAbsolute with
    | some dir => some (.relativeWorkingDirectory dir)
    | none => if settings.logFilter.any Text.isBlankText then some .blankLogFilter else none

/-- Settings with those of the command line put before them. The log has none there. -/
def override (settings commandLine : Settings) : Settings where
  swiftVersion := commandLine.swiftVersion.or settings.swiftVersion
  workingDirectory := commandLine.workingDirectory.or settings.workingDirectory
  personality := commandLine.personality.or settings.personality
  logFilter := settings.logFilter

/-- The version of the compiler under some settings. -/
def effectiveSwiftVersion (settings : Settings) : String :=
  settings.swiftVersion.getD defaultSwiftVersion

/-- What goes into the log under some settings. -/
def effectiveLogFilter (settings : Settings) : String :=
  settings.logFilter.getD defaultLogFilter

end Settings

end CompilerDriver
