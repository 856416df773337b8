import CompilerDriver.BuildRecord.Basic

/-!
# What a build left its inputs in

For each input of a recorded build: whether it is up to date, and if not, how far the next build has to
go. An input whose job failed but left a dependency graph is compiled again by itself; what depends on it
can wait for the outcome. In all other cases what depends on it is compiled along with it.
-/

namespace CompilerDriver

/-- What a build left an input in. -/
inductive InputStatus where
  | upToDate
  /-- The input is to be compiled again. -/
  | needsNonCascadingBuild
  /-- The input and all that depends on it is to be compiled again. -/
  | needsCascadingBuild
deriving DecidableEq, Repr

namespace InputStatus

/-- The name that stands for a status. -/
def name : InputStatus → String
  | .upToDate => "up-to-date"
  | .needsNonCascadingBuild => "needs-non-cascading-build"
  | .needsCascadingBuild => "needs-cascading-build"

/-- A status as reports for people show it. -/
def label : InputStatus → String
  | .upToDate => "UpToDate"
  | .needsNonCascadingBuild => "NeedsNonCascadingBuild"
  | .needsCascadingBuild => "NeedsCascadingBuild"

end InputStatus

/-- What is known of an input from the last build. -/
structure InputInfo where
  status : InputStatus
  /-- When the input was last modified, as the build saw it. -/
  previousModified : Instant
deriving DecidableEq, Repr

namespace BuildRecord

/-- How the jobs ended that compiled an input. Of several jobs that compiled it the last one counts. -/
def resultsByInput (record : BuildRecord) : OrderedMap TypedPath JobResult :=
  record.jobs.foldl
    (fun found job =>
      match record.results.get? job.id with
      | some result => job.compiledInputs.foldl (fun found input => found.insert input result) found
      | none => found)
    .empty

/-- Whether an input was skipped. -/
def wasSkipped (record : BuildRecord) (input : TypedPath) : Bool :=
  match record.skippedInputs with
  | some skipped => skipped.contains input
  | none => false

/-- The status of an input whose job ended with `result`, if it had one that ended. -/
def statusOf (result : Option JobResult) (wasSkipped : Bool) : InputStatus :=
  match result with
  | some result =>
    if result.succeeded || wasSkipped then .upToDate
    else if result.leftDependencyGraph then .needsNonCascadingBuild
    else .needsCascadingBuild
  | none => if wasSkipped then .upToDate else .needsCascadingBuild

/-- What the build left each of its inputs in. -/
def inputInfos (record : BuildRecord) : OrderedMap TypedPath InputInfo :=
  let results := record.resultsByInput
  record.inputDates.mapValues fun input modified =>
    ⟨statusOf (results.get? input) (record.wasSkipped input), modified⟩

end BuildRecord

end CompilerDriver
