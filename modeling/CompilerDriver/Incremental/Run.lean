import CompilerDriver.BuildRecord.Basic
import CompilerDriver.Diagnostic
import CompilerDriver.Fingerprint
import CompilerDriver.OutputFileMap
import CompilerDriver.Text.Quoted

/-!
# Incremental runs

A run of the driver that takes up where the last one ended. It needs to know where the record of the last
build is kept, and that is an entry of the output file map for the module as a whole. Without it the
driver builds everything, and says so.

Relative paths are resolved against the working directory of the run. What counts as relative is for the
storage to say: `isRooted` tells which paths mean the same from every directory.
-/

namespace CompilerDriver

namespace Path

/-- Resolves a path against a working directory, if there is one and the path needs it. -/
def resolveIn (isRooted : Path → Bool) (dir : Option Path) (p : Path) : Path :=
  match dir with
  | some dir => if isRooted p then p else dir.join p
  | none => p

end Path

namespace TypedPath

/-- Resolves the path of a file and keeps its type. -/
def resolveIn (isRooted : Path → Bool) (dir : Option Path) (file : TypedPath) : TypedPath :=
  { file with path := file.path.resolveIn isRooted dir }

end TypedPath

namespace Incremental

/-- Why a run is not incremental. -/
inductive Unavailable where
  /-- Nobody asked for it. -/
  | notRequested
  | noOutputFileMap
  /-- The output file map does not say where the record is kept. -/
  | noRecordEntry
deriving DecidableEq, Repr

namespace Unavailable

/-- What the user is told. Who did not ask is told nothing. -/
def diagnostic? : Unavailable → Option Diagnostic
  | .notRequested => none
  | .noOutputFileMap => some .requiresOutputFileMap
  | .noRecordEntry => some .requiresRecordEntry

/-- The name that stands for a reason. -/
def name : Unavailable → String
  | .notRequested => "IncrementalNotRequested"
  | .noOutputFileMap => "NoOutputFileMap"
  | .noRecordEntry => "NoBuildRecordEntry"

end Unavailable

/-- What is known of a run before its options are looked at. -/
structure Setup where
  swiftVersion : String
  outputFileMap : Option OutputFileMap := none
  /-- What each input is compiled to. -/
  compiled : Option FileType := none
  /-- The working directory; if none is given here, an option may give one. -/
  workingDirectory : Option Path := none
  /-- When each input was last modified. -/
  inputDates : OrderedMap TypedPath Instant := .empty
  timeBeforeFirstJob : Instant

/-- An incremental run. -/
structure Run where
  /-- Where the record of the last build is, and that of this one will be. -/
  recordPath : Path
  swiftVersion : String
  /-- The fingerprint of the options. -/
  argsHash : String
  workingDirectory : Option Path
  /-- When each input of the compilation was last modified. -/
  inputDates : OrderedMap TypedPath Instant
  timeBeforeFirstJob : Instant
deriving DecidableEq

namespace Run

/-- The name of a file with `mark` behind its stem. A name without an extension stays without. -/
def markedName (p : Path) (mark : String) : Bytes :=
  let stem := (p.stem?.map Path.lossyText).getD ""
  Utf8.encode (match p.extension? with
    | some extension => s!"{stem}{mark}.{Path.lossyText extension}"
    | none => s!"{stem}{mark}").toList

/-- Where a run keeps its record, if `declared` is the entry of the output file map. A run that only makes a
module has a file of its own, so that it never gets in the way of a full build. -/
def recordPathFor (declared : Path) (compiled : Option FileType) : Path :=
  if compiled = some .swiftModule then declared.withFileName (markedName declared "-async")
  else declared

/-- Where the dependency graph is kept: next to the record. -/
def dependencyGraphPath (run : Run) : Path :=
  let stem := (run.recordPath.stem?.map Path.lossyText).getD ""
  run.recordPath.withFileName (Utf8.encode (s!"{stem}.priors").toList)

/-- Starts an incremental run, if the options ask for one and there is a place for its record. -/
def start (isRooted : Path → Bool) (setup : Setup) (given : Occurrences) : Except Unavailable Run :=
  if given.contains .incremental then
    match setup.outputFileMap with
    | none => .error .noOutputFileMap
    | some map =>
      match map.moduleOutput? .swiftDependencies with
      | none => .error .noRecordEntry
      | some declared =>
        let dir := setup.workingDirectory.or
          ((given.lastArgument? .workingDirectory).map Path.ofString)
        .ok {
          recordPath := (recordPathFor declared setup.compiled).resolveIn isRooted dir
          swiftVersion := setup.swiftVersion
          argsHash := fingerprint given
          workingDirectory := dir
          inputDates := (setup.inputDates.filterKeys fun input => input.type.isCompiled).mapKeys
            fun input => input.resolveIn isRooted dir
          timeBeforeFirstJob := setup.timeBeforeFirstJob }
  else .error .notRequested

/-- What starting a run came to, for a person to read. -/
def describeStart : Except Unavailable Run → String
  | .ok run => s!"Available({Quoted.ofBytes run.recordPath.bytes})"
  | .error reason => s!"Unavailable({reason.name})"

/-- The record of the run, when jobs were planned, some of them have ended with `results`, and the `skipped`
inputs were not compiled. -/
def record (run : Run) (isRooted : Path → Bool) (results : OrderedMap JobId JobResult)
    (jobs : List Job) (skipped : Option (OrderedSet TypedPath)) : BuildRecord :=
  let resolve := TypedPath.resolveIn isRooted run.workingDirectory
  { swiftVersion := run.swiftVersion
    argsHash := run.argsHash
    timeBeforeFirstJob := run.timeBeforeFirstJob
    jobs := jobs.map (Job.mapFiles resolve)
    results := results
    skippedInputs := skipped.map (OrderedMap.mapKeys resolve)
    inputDates := run.inputDates.mapKeys resolve }

end Run

end Incremental

end CompilerDriver
