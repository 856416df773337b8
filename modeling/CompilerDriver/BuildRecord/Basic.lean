import CompilerDriver.Instant.Basic
import CompilerDriver.Job

/-!
# Build records

What a build leaves behind for the next one: the compiler and the arguments it was run with, when it
began, its jobs and how they ended, and the inputs with the times at which they were last modified. The
next build may skip work that the record shows to be done, but only if the record can be trusted.
-/

namespace CompilerDriver

/-- The record of a build. -/
structure BuildRecord where
  /-- The version of the compiler that was run. -/
  swiftVersion : String
  /-- The fingerprint of its arguments. -/
  argsHash : String
  /-- The moment before the first job started. -/
  timeBeforeFirstJob : Instant
  /-- The jobs, in the order in which they were planned. -/
  jobs : List Job
  /-- How jobs ended, as far as they did. -/
  results : OrderedMap JobId JobResult
  /-- The inputs that were not compiled because nothing had changed for them. -/
  skippedInputs : Option (OrderedSet TypedPath)
  /-- The inputs of the compilation, with the time each was last modified. -/
  inputDates : OrderedMap TypedPath Instant
deriving DecidableEq

namespace BuildRecord

/-- The paths of the record, in the order in which they are checked: inputs, skipped inputs, and the files
of each job. -/
def paths (record : BuildRecord) : List Path :=
  record.inputDates.keys.map (·.path) ++
    (match record.skippedInputs with
    | some skipped => skipped.keys.map (·.path)
    | none => []) ++
    record.jobs.flatMap Job.paths

/-- The jobs of each kind, in the order of the kinds; kinds without jobs are left out. -/
def jobsByKind (record : BuildRecord) : List (JobKind × List Job) :=
  JobKind.all.filterMap fun kind =>
    match record.jobs.filter fun job => job.kind == kind with
    | [] => none
    | jobs => some (kind, jobs)

end BuildRecord

end CompilerDriver
