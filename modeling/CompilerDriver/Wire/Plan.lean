import CompilerDriver.Json.Reader
import CompilerDriver.Json.Strict
import CompilerDriver.Mode
import CompilerDriver.Products
import CompilerDriver.Wire.Path

/-!
# Plans on the wire

The JSON forms of what the driver decides about an invocation. A mode is a record whose field `mode`
names it; in batch mode the parameters of the batches stand beside it.
-/

namespace CompilerDriver

namespace Personality

def toJson (p : Personality) : Json := .text p.name

def ofJson? (value : Json) : Option Personality := value.choice? name all

end Personality

namespace Linkage

def toJson (linkage : Linkage) : Json := .text linkage.name

def ofJson? (value : Json) : Option Linkage := value.choice? name all

end Linkage

namespace Products

/-- The fields of products, in their order. -/
def fieldNames : List String := ["compiler_output", "linker_output"]

def toJson (products : Products) : Json :=
  .record [("compiler_output", .ofOption (products.compiled.map FileType.toJson)),
    ("linker_output", .ofOption (products.linked.map Linkage.toJson))]

def ofJson? (value : Json) : Option Products := do
  let [compiled, linked] ← value.slots fieldNames | none
  return ⟨← compiled.optional FileType.ofJson?, ← linked.optional Linkage.ofJson?⟩

end Products

namespace BatchParameters

/-- The fields of parameters, in their order. -/
def fieldNames : List String := ["seed", "count", "size_limit"]

/-- The members that stand for parameters; what is not given is left out. -/
def members (parameters : BatchParameters) : List (String × Json) :=
  let field (name : String) (value : Option UInt64) : List (String × Json) :=
    value.toList.map fun n => (name, .nat n.toNat)
  field "seed" parameters.seed ++ field "count" parameters.count ++
    field "size_limit" parameters.sizeLimit

def toJson (parameters : BatchParameters) : Json := .record parameters.members

def ofJson? (value : Json) : Option BatchParameters := do
  let [seed, count, sizeLimit] ← value.slots fieldNames | none
  return {
    seed := ← seed.optional Json.uint64?
    count := ← count.optional Json.uint64?
    sizeLimit := ← sizeLimit.optional Json.uint64? }

end BatchParameters

namespace Mode

/-- The name that stands for a mode. -/
def tag : Mode → String
  | .standardCompile => "standard-compile"
  | .batchCompile _ => "batch-compile"
  | .singleCompile => "single-compile"
  | .repl => "repl"
  | .immediate => "immediate"
  | .compilePrecompiledModule => "compile-precompiled-module"

/-- The modes that have no parameters. -/
def plain : List Mode := [.standardCompile, .singleCompile, .repl, .immediate, .compilePrecompiledModule]

def toJson (mode : Mode) : Json :=
  .record (("mode", .text mode.tag) ::
    (match mode.batchParameters? with
    | some parameters => parameters.members
    | none => []))

/-- The mode called `tag`, whose parameters stand in `content`. A mode without parameters skips the
members of an object, but leaves no item of an array unread. -/
def ofTag? (tag : String) (content : Json) : Option Mode :=
  if tag = "batch-compile" then (BatchParameters.ofJson? content).map .batchCompile
  else
    match content with
    | .array (_ :: _) => none
    | _ => plain.find? fun mode => mode.tag == tag

def ofJson? (value : Json) : Option Mode :=
  if value.isStrict then
    match value with
    | .object _ => do
      let [tag] ← value.slots ["mode"] | none
      ofTag? (← tag.required Json.text?) value
    | .array (tag :: rest) => do ofTag? (← tag.text?) (.array rest)
    | _ => none
  else none

end Mode

end CompilerDriver
