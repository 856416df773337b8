import CompilerDriver.DriverOption.Reader
import CompilerDriver.Json.Printer
import CompilerDriver.Mode
import CompilerDriver.Products
import CompilerDriver.Wire.Plan

/-!
# Plans and how they are shown

A plan is all that the driver decides about an invocation before any work is done.
-/

namespace CompilerDriver

/-- What the driver decides about an invocation. -/
structure Plan where
  personality : Personality
  mode : Mode
  products : Products
deriving DecidableEq, Repr

namespace Plan

/-- The plan of a driver with this personality for the options given. -/
def of (personality : Personality) (given : Occurrences) : Plan where
  personality := personality
  mode := .resolve personality given
  products := .ofGiven given personality

/-- A parameter of batches, as reports for people show it. -/
def parameterText : Option UInt64 → String
  | some n => s!"Some({n.toNat})"
  | none => "None"

/-- What reports for people say of the batches, if there are any. -/
def batchLines (mode : Mode) : List String :=
  match mode.batchParameters? with
  | some parameters =>
    [s!"  Batch seed: {parameterText parameters.seed}",
      s!"  Batch count: {parameterText parameters.count}",
      s!"  Batch size limit: {parameterText parameters.sizeLimit}"]
  | none => []

/-- A plan as a report for people. -/
def lines (plan : Plan) : List String :=
  [s!"Driver kind: {plan.personality.name}", s!"Mode: {plan.mode.description}"] ++
    batchLines plan.mode ++
    [s!"  Uses primary file inputs: {plan.mode.usesPrimaryInputs}",
      s!"  Single compilation: {plan.mode.isSingleCompilation}",
      s!"  Standard compilation for planning: {plan.mode.isPlanned}",
      s!"  Supports bridging PCH: {plan.mode.supportsBridgingPch}",
      "Compiler output: " ++ (plan.products.compiled.map FileType.name).getD "none",
      "Linker output: " ++ (plan.products.linked.map Linkage.description).getD "none"]

/-- A plan as a JSON value. -/
def toJson (plan : Plan) : Json :=
  .record [("driver_kind", plan.personality.toJson), ("mode", plan.mode.toJson),
    ("uses_primary_file_inputs", .bool plan.mode.usesPrimaryInputs),
    ("is_single_compilation", .bool plan.mode.isSingleCompilation),
    ("is_standard_compilation_for_planning", .bool plan.mode.isPlanned),
    ("supports_bridging_pch", .bool plan.mode.supportsBridgingPch),
    ("outputs", plan.products.toJson)]

end Plan

end CompilerDriver
