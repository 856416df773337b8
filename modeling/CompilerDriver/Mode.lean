import CompilerDriver.DriverOption.Occurrence
import CompilerDriver.Personality
import CompilerDriver.Text.Digits

/-!
# Compiler modes

How an invocation compiles what it is given. The first of these rules that applies decides:

1. the last option of the group `modes` asks for an output that is made in a mode of its own;
2. some option asks for the read-eval-print loop;
3. the driver is interactive: it runs its inputs, or enters the loop if it has none;
4. the whole module is to be optimized at once;
5. the caller wants the inputs compiled in batches;
6. every input is compiled on its own.
-/

namespace CompilerDriver

/-- How batches of inputs are formed. -/
structure BatchParameters where
  seed : Option UInt64 := none
  count : Option UInt64 := none
  sizeLimit : Option UInt64 := none
deriving DecidableEq, Repr

namespace BatchParameters

/-- The number that an argument writes: digits, with a plus sign in front or without, below 2^64. -/
def number? (argument : String) : Option UInt64 := Digits.unsignedWord? argument.toList

/-- The parameters that some options give. Only the last argument of each option counts, and one that is
no number counts for nothing. -/
def ofGiven (given : Occurrences) : BatchParameters where
  seed := (given.lastArgument? .driverBatchSeed).bind number?
  count := (given.lastArgument? .driverBatchCount).bind number?
  sizeLimit := (given.lastArgument? .driverBatchSizeLimit).bind number?

end BatchParameters

/-- How an invocation compiles. -/
inductive Mode where
  | standardCompile
  | batchCompile (parameters : BatchParameters)
  | singleCompile
  | repl
  | immediate
  | compilePrecompiledModule
deriving DecidableEq, Repr

namespace Mode

/-- The wording of a mode. -/
def description : Mode → String
  | .standardCompile => "standard compilation"
  | .batchCompile _ => "batch compilation"
  | .singleCompile => "whole module optimization"
  | .repl => "read-eval-print-loop compilation"
  | .immediate => "immediate compilation"
  | .compilePrecompiledModule => "precompile Clang module"

/-- Whether the compiler is told which of its inputs to compile. -/
def usesPrimaryInputs : Mode → Bool
  | .standardCompile | .batchCompile _ => true
  | _ => false

/-- Whether the compiler runs once for all inputs. -/
def isSingleCompilation : Mode → Bool
  | .singleCompile | .compilePrecompiledModule => true
  | _ => false

/-- Whether the work is planned as compilation followed by linking. -/
def isPlanned : Mode → Bool
  | .standardCompile | .batchCompile _ | .singleCompile => true
  | _ => false

/-- Whether bridging headers may be precompiled. -/
def supportsBridgingPch : Mode → Bool
  | .repl | .immediate => false
  | _ => true

/-- The parameters of batches, where there are batches. -/
def batchParameters? : Mode → Option BatchParameters
  | .batchCompile parameters => some parameters
  | _ => none

/-! ## Choosing a mode -/

/-- The mode of its own that an option asks for. -/
def dedicated? : DriverOption → Option Mode
  | .emitPch | .emitImportedModules | .indexFile => some .singleCompile
  | .emitPcm => some .compilePrecompiledModule
  | _ => none

/-- The options that ask for the read-eval-print loop. -/
def replOptions : List DriverOption := [.repl, .deprecatedIntegratedRepl, .lldbRepl]

/-- The mode of an invocation. `selectBatches` says whether a compilation of many inputs is done in
batches, and with which parameters. -/
def resolveWith (selectBatches : Occurrences → Option BatchParameters) (personality : Personality)
    (given : Occurrences) : Mode :=
  match (given.lastInGroup? .modes).bind fun x => dedicated? x.option with
  | some mode => mode
  | none =>
    if given.containsAny replOptions then .repl
    else if personality.isInteractive then
      if given.inputs.isEmpty then .repl else .immediate
    else if given.isOn .wholeModuleOptimization .noWholeModuleOptimization false then .singleCompile
    else match selectBatches given with
      | some parameters => .batchCompile parameters
      | none => .standardCompile

/-- The mode of an invocation that never compiles in batches. -/
def resolve (personality : Personality) (given : Occurrences) : Mode :=
  resolveWith (fun _ => none) personality given

end Mode

end CompilerDriver
