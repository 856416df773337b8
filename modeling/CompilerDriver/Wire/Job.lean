import CompilerDriver.Job
import CompilerDriver.Wire.Path

/-!
# Jobs on the wire

A job without primary inputs is written without that field. The end of a process is an object with one
member, named for how it ended.
-/

namespace CompilerDriver

namespace JobKind

def toJson (kind : JobKind) : Json := .text kind.name

def ofJson? (value : Json) : Option JobKind := value.choice? name all

end JobKind

namespace Job

/-- The fields of a job, in their order. -/
def fieldNames : List String := ["id", "kind", "inputs", "primary_inputs", "outputs"]

/-- The JSON form of a job, if all its paths have one. -/
def toJson? (job : Job) : Option Json := do
  let inputs ← TypedPath.listToJson? job.inputs
  let primaryInputs ← TypedPath.listToJson? job.primaryInputs
  let outputs ← TypedPath.listToJson? job.outputs
  return .record ([("id", .text job.id), ("kind", job.kind.toJson), ("inputs", inputs)] ++
    (if job.primaryInputs.isEmpty then [] else [("primary_inputs", primaryInputs)]) ++
    [("outputs", outputs)])

def ofJson? (value : Json) : Option Job := do
  let [id, kind, inputs, primaryInputs, outputs] ← value.slots fieldNames | none
  return {
    id := ← id.required Json.text?
    kind := ← kind.required JobKind.ofJson?
    inputs := ← inputs.defaulted TypedPath.listOfJson? []
    primaryInputs := ← primaryInputs.defaulted TypedPath.listOfJson? []
    outputs := ← outputs.defaulted TypedPath.listOfJson? [] }

end Job

namespace ProcessExit

/-- The member that stands for the end of a process. -/
def member : ProcessExit → String × Json
  | .terminated code => ("terminated", .int code.toInt)
  | .signalled signal => ("signalled", .int signal.toInt)

def toJson (exit : ProcessExit) : Json := .record [exit.member]

def ofJson? : Json → Option ProcessExit
  | .object [(some "terminated", code)] => code.int32?.map .terminated
  | .object [(some "signalled", signal)] => signal.int32?.map .signalled
  | _ => none

end ProcessExit

namespace JobResult

/-- The fields of a result, in their order. -/
def fieldNames : List String := ["exit", "produced_dependency_graph"]

def toJson (result : JobResult) : Json :=
  .record [("exit", result.exit.toJson),
    ("produced_dependency_graph", .bool result.leftDependencyGraph)]

def ofJson? (value : Json) : Option JobResult := do
  let [exit, graph] ← value.slots fieldNames | none
  return ⟨← exit.required ProcessExit.ofJson?, ← graph.defaulted Json.bool? false⟩

end JobResult

end CompilerDriver
