import CompilerDriver.BuildRecord.Status
import CompilerDriver.Instant.Printer
import CompilerDriver.Json.Printer
import CompilerDriver.Wire.Job

/-!
# Summaries of build records

What the record of a build says at a glance: the jobs, counted by kind, and what the build left each input in.
-/

namespace CompilerDriver.BuildRecord

/-- Whether a job ended and did not do its work. -/
def hasFailed (record : BuildRecord) (job : Job) : Bool :=
  match record.results.get? job.id with
  | some result => !result.succeeded
  | none => false

/-- The jobs of a kind, counted. -/
def kindLine (record : BuildRecord) (kind : JobKind) (jobs : List Job) : String :=
  s!"    {kind.name}: {jobs.length} ({(jobs.filter record.hasFailed).length} failed)"

/-- An input with its status. -/
def inputLine (input : TypedPath) (info : InputInfo) : String :=
  s!"    {input.path.display} [{info.status.label}] modified {info.previousModified.reportText}"

/-- A record, read from `path`, as a report for people. -/
def summaryLines (record : BuildRecord) (path : Path) : List String :=
  [s!"Build record: {path.display}", s!"  Swift version: {record.swiftVersion}",
    s!"  Args hash: {record.argsHash}",
    s!"  Time before first job: {record.timeBeforeFirstJob.reportText}", "  Jobs:"] ++
    record.jobsByKind.map (fun (kind, jobs) => record.kindLine kind jobs) ++
    ["  Inputs:"] ++
    record.inputInfos.entries.map (fun (input, info) => inputLine input info) ++
    match record.skippedInputs with
    | some skipped => [s!"  Skipped inputs: {skipped.size}"]
    | none => []

/-- An input with its status as a JSON value. -/
def inputSummary (input : TypedPath) (info : InputInfo) : Json :=
  .record [("path", .text input.path.display), ("type", input.type.toJson),
    ("status", .text info.status.name),
    ("previous_mod_time", .text info.previousModified.text)]

/-- A record as a JSON value. -/
def summary (record : BuildRecord) : Json :=
  .record [("swift_version", .text record.swiftVersion), ("args_hash", .text record.argsHash),
    ("time_before_first_job", .text record.timeBeforeFirstJob.text),
    ("jobs", .record (record.jobsByKind.map fun (kind, jobs) => (kind.name, .nat jobs.length))),
    ("inputs", .array (record.inputInfos.entries.map fun (input, info) => inputSummary input info)),
    ("skipped_inputs", .ofOption (record.skippedInputs.map fun skipped => .nat skipped.size))]

end CompilerDriver.BuildRecord
