import CompilerDriver.FileType

/-!
# Jobs

A job is a unit of work of a build: it makes outputs from inputs. Of a finished job the driver keeps how
its process ended and whether it left a dependency graph behind.
-/

namespace CompilerDriver

/-- The text by which a job is known. -/
abbrev JobId := String

/-- What a job does. -/
inductive JobKind where
  | compile | emitModule | mergeModule | link | generateDsym | autolinkExtract | generatePch
  | generatePcm | moduleWrap | verifyDebugInfo | interpret | repl
deriving DecidableEq, Repr

namespace JobKind

/-- All kinds, in their order. -/
def all : List JobKind :=
  [.compile, .emitModule, .mergeModule, .link, .generateDsym, .autolinkExtract, .generatePch,
    .generatePcm, .moduleWrap, .verifyDebugInfo, .interpret, .repl]

/-- The name that stands for a kind. -/
def name : JobKind → String
  | .compile => "compile"
  | .emitModule => "emit-module"
  | .mergeModule => "merge-module"
  | .link => "link"
  | .generateDsym => "generate-dsym"
  | .autolinkExtract => "autolink-extract"
  | .generatePch => "generate-pch"
  | .generatePcm => "generate-pcm"
  | .moduleWrap => "module-wrap"
  | .verifyDebugInfo => "verify-debug-info"
  | .interpret => "interpret"
  | .repl => "repl"

/-- The list of all kinds leaves none out. -/
theorem mem_all (k : JobKind) : k ∈ all := by cases k <;> decide

end JobKind

/-- A unit of work. -/
structure Job where
  id : JobId
  kind : JobKind
  inputs : List TypedPath := []
  /-- The inputs that the job compiles itself; of the others it only takes notice. -/
  primaryInputs : List TypedPath := []
  outputs : List TypedPath := []
deriving DecidableEq, Repr

namespace Job

/-- The job that compiles `primary`. It is known by the path of it. -/
def compile (primary : TypedPath) (outputs : List TypedPath) : Job where
  id := primary.path.display
  kind := .compile
  inputs := [primary]
  primaryInputs := [primary]
  outputs := outputs

/-- The job that links `inputs` into `output`. It is known by the path of the output. -/
def link (inputs : List TypedPath) (output : TypedPath) : Job where
  id := output.path.display
  kind := .link
  inputs := inputs
  outputs := [output]

/-- The inputs that a job makes code from: only compile jobs do, from their primary inputs, or from all
inputs that can be compiled if none is primary. -/
def compiledInputs (job : Job) : List TypedPath :=
  if job.kind = .compile then
    if job.primaryInputs.isEmpty then job.inputs.filter fun input => input.type.isCompiled
    else job.primaryInputs
  else []

/-- All files of a job: inputs, primary inputs, outputs. -/
def files (job : Job) : List TypedPath := job.inputs ++ job.primaryInputs ++ job.outputs

/-- The paths of all files of a job. -/
def paths (job : Job) : List Path := job.files.map (·.path)

/-- The same job with `f` applied to every file. -/
def mapFiles (f : TypedPath → TypedPath) (job : Job) : Job :=
  { job with
    inputs := job.inputs.map f
    primaryInputs := job.primaryInputs.map f
    outputs := job.outputs.map f }

theorem files_mapFiles (f : TypedPath → TypedPath) (job : Job) :
    (job.mapFiles f).files = job.files.map f := by
  simp [files, mapFiles]

end Job

/-- How a process ended. -/
inductive ProcessExit where
  | terminated (code : Int32)
  | signalled (signal : Int32)
deriving DecidableEq, Repr

/-- What is known of a finished job. -/
structure JobResult where
  exit : ProcessExit
  /-- Whether the job left a dependency graph, from which the effects of its failure can be told. -/
  leftDependencyGraph : Bool
deriving DecidableEq, Repr

namespace JobResult

/-- The job did its work. -/
def success : JobResult := ⟨.terminated 0, true⟩

/-- The job ended with an exit code, and without a dependency graph. -/
def failure (code : Int32) : JobResult := ⟨.terminated code, false⟩

/-- The job was ended by a signal. -/
def signalled (signal : Int32) : JobResult := ⟨.signalled signal, false⟩

/-- A job succeeded if it ended by itself with exit code 0. -/
def succeeded (result : JobResult) : Bool := result.exit == .terminated 0

end JobResult

end CompilerDriver
