import CompilerDriver.BuildRecord.Basic
import CompilerDriver.Instant.Printer
import CompilerDriver.Instant.Reader
import CompilerDriver.Json.Parser
import CompilerDriver.Json.Printer
import CompilerDriver.Wire.Job

/-!
# The document of a build record

A record is kept as a JSON document in which sets and maps are lists in key order, so one record always
has one text. `Document` is what such a text says before anything is checked: lists may repeat a key,
and the document may follow another schema.
-/

namespace CompilerDriver.BuildRecord

/-- The version of the schema that is written, and the last one that is read. -/
def schemaVersion : Nat := 1

/-- The name of the schema. -/
def schemaId : String := "swift-driver/build_record@1"

/-- What the document of a record says. -/
structure Document where
  schemaVersion : Nat
  schemaId : String
  swiftVersion : String
  argsHash : String
  timeBeforeFirstJob : Instant
  inputs : List (TypedPath × Instant)
  jobs : List Job
  results : List (JobId × JobResult)
  skippedInputs : Option (List TypedPath)
deriving DecidableEq

namespace Document

/-! ## Writing -/

/-- An input with the time it was last modified. -/
def inputToJson? (entry : TypedPath × Instant) : Option Json := do
  return .record [("path", ← entry.1.path.toJson?), ("type", entry.1.type.toJson),
    ("modified", .text entry.2.text)]

/-- A job that ended. A missing dependency graph is not mentioned. -/
def resultToJson (entry : JobId × JobResult) : Json :=
  .record ([("job", .text entry.1), ("exit", entry.2.exit.toJson)] ++
    (if entry.2.leftDependencyGraph then [("produced_dependency_graph", .bool true)] else []))

/-- The JSON form of a document, if all its paths have one. -/
def toJson? (doc : Document) : Option Json := do
  let inputs ← doc.inputs.mapM inputToJson?
  let jobs ← doc.jobs.mapM Job.toJson?
  let skipped ← match doc.skippedInputs with
    | some files => (TypedPath.listToJson? files).map fun files => [("skipped_inputs", files)]
    | none => some []
  return .record ([("schema_version", .nat doc.schemaVersion), ("schema_id", .text doc.schemaId),
    ("swift_version", .text doc.swiftVersion), ("args_hash", .text doc.argsHash),
    ("time_before_first_job", .text doc.timeBeforeFirstJob.text),
    ("inputs", .array inputs), ("jobs", .array jobs),
    ("results", .array (doc.results.map resultToJson))] ++ skipped)

/-! ## Reading -/

/-- The fields of a document, in their order. -/
def fieldNames : List String :=
  ["schema_version", "schema_id", "swift_version", "args_hash", "time_before_first_job", "inputs",
    "jobs", "results", "skipped_inputs"]

def instantOfJson? (value : Json) : Option Instant := value.text?.bind Instant.ofText?

/-- The fields of an input, in their order. -/
def inputFieldNames : List String := ["path", "type", "modified"]

def inputOfJson? (value : Json) : Option (TypedPath × Instant) := do
  let [path, type, modified] ← value.slots inputFieldNames | none
  return (⟨← path.required Path.ofJson?, ← type.required FileType.ofJson?⟩,
    ← modified.required instantOfJson?)

/-- The fields of a result, in their order. -/
def resultFieldNames : List String := ["job", "exit", "produced_dependency_graph"]

def resultOfJson? (value : Json) : Option (JobId × JobResult) := do
  let [job, exit, graph] ← value.slots resultFieldNames | none
  return (← job.required Json.text?,
    ⟨← exit.required ProcessExit.ofJson?, ← graph.defaulted Json.bool? false⟩)

/-- The document that a JSON value says. Where the schema is not named, it is the current one, and a record
without a time is older than every input. -/
def ofJson? (value : Json) : Option Document := do
  let [version, id, swiftVersion, argsHash, time, inputs, jobs, results, skipped] ←
    value.slots fieldNames | none
  return {
    schemaVersion := ← version.defaulted (Json.natBelow? UInt32.size) BuildRecord.schemaVersion
    schemaId := ← id.defaulted Json.text? BuildRecord.schemaId
    swiftVersion := ← swiftVersion.required Json.text?
    argsHash := ← argsHash.required Json.text?
    timeBeforeFirstJob := ← time.defaulted instantOfJson? .epoch
    inputs := ← inputs.defaulted (Json.list? inputOfJson?) []
    jobs := ← jobs.defaulted (Json.list? Job.ofJson?) []
    results := ← results.defaulted (Json.list? resultOfJson?) []
    skippedInputs := ← skipped.defaulted (Json.nullable TypedPath.listOfJson?) none }

/-- The document that a text says. -/
def ofText? (text : String) : Option Document := (Json.ofText? text).bind ofJson?

/-- The text of a document, if all its paths are text. -/
def text? (doc : Document) : Option String := doc.toJson?.map Json.pretty

end Document

end CompilerDriver.BuildRecord
