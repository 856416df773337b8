import CompilerDriver.DriverOption.Occurrence
import CompilerDriver.FileType
import CompilerDriver.Personality

/-!
# Products

What an invocation makes of each input, and what, if anything, it links the results into. An option of
the group `modes` decides both; without one, options that ask for a module do; and without these the
personality does.
-/

namespace CompilerDriver

/-- What a linker makes. -/
inductive Linkage where
  | executable
  | staticLibrary
  | dynamicLibrary
deriving DecidableEq, Repr

namespace Linkage

def all : List Linkage := [.executable, .staticLibrary, .dynamicLibrary]

/-- The name that stands for what is linked. -/
def name : Linkage → String
  | .executable => "executable"
  | .staticLibrary => "static-library"
  | .dynamicLibrary => "dynamic-library"

/-- The wording of what is linked. -/
def description : Linkage → String
  | .executable => "executable"
  | .staticLibrary => "static library"
  | .dynamicLibrary => "dynamic library"

end Linkage

/-- What an invocation makes. -/
structure Products where
  /-- What each input is compiled to. -/
  compiled : Option FileType
  /-- What the results are linked into. -/
  linked : Option Linkage
deriving DecidableEq, Repr

/-- An option that does not belong to the group `modes` was to decide about the products. -/
structure UnhandledMode where
  option : DriverOption
deriving DecidableEq, Repr

/-- The wording of the complaint. -/
def UnhandledMode.message (e : UnhandledMode) : String :=
  s!"unhandled output mode option '{e.option.spelling}': " ++
    "the output resolver is out of sync with the option table"

namespace Products

/-- Whether anything is linked. -/
def links (products : Products) : Bool := products.linked.isSome

/-- What an option of the group `modes` makes; `isStatic` says whether libraries are linked statically. -/
def ofMode? (isStatic : Bool) : DriverOption → Option Products
  | .emitExecutable => some ⟨some .object, some .executable⟩
  | .emitLibrary => some ⟨some .object, some (if isStatic then .staticLibrary else .dynamicLibrary)⟩
  | .emitObject => some ⟨some .object, none⟩
  | .emitAssembly => some ⟨some .assembly, none⟩
  | .emitSil => some ⟨some .sil, none⟩
  | .emitSilgen => some ⟨some .rawSil, none⟩
  | .emitSib => some ⟨some .sib, none⟩
  | .emitSibgen => some ⟨some .rawSib, none⟩
  | .emitIr => some ⟨some .llvmIr, none⟩
  | .emitBc => some ⟨some .llvmBitcode, none⟩
  | .dumpAst => some ⟨some .ast, none⟩
  | .emitPch => some ⟨some .pch, none⟩
  | .emitPcm => some ⟨some .pcm, none⟩
  | .emitImportedModules => some ⟨some .importedModules, none⟩
  | .indexFile => some ⟨some .indexData, none⟩
  | .updateCode => some ⟨some .remap, none⟩
  | .parse | .resolveImports | .typecheck | .dumpParse | .printAst | .dumpScopeMaps
  | .dumpTypeRefinementContexts | .dumpInterfaceHash | .dumpTypeInfo | .verifyDebugInfo
  | .repl | .deprecatedIntegratedRepl | .lldbRepl => some ⟨none, none⟩
  | _ => none

/-- The products of an invocation where the option `deciding` stands for the group `modes`. -/
def resolveFor (deciding : Option DriverOption) (given : Occurrences) (personality : Personality) :
    Except UnhandledMode Products :=
  match deciding with
  | some option =>
    match ofMode? (given.contains .static) option with
    | some products => .ok products
    | none => .error ⟨option⟩
  | none =>
    if given.containsAny [.emitModule, .emitModulePath] then .ok ⟨some .swiftModule, none⟩
    else if personality.isInteractive then .ok ⟨none, none⟩
    else .ok ⟨some .object, some .executable⟩

/-- The products of an invocation: the last option of the group `modes` stands for it. -/
def resolve (given : Occurrences) (personality : Personality) : Except UnhandledMode Products :=
  resolveFor ((given.lastInGroup? .modes).map (·.option)) given personality

/-- Every option of the group `modes` decides about the products. -/
theorem ofMode?_isSome {o : DriverOption} (h : o.group? = some .modes) (isStatic : Bool) :
    (ofMode? isStatic o).isSome = true := by
  have each : ∀ o ∈ DriverOption.all, o.group? = some .modes → ∀ b : Bool,
      (ofMode? b o).isSome = true := by decide +kernel
  exact each o o.mem_all h isStatic

/-- The options as they were given always settle the products. -/
theorem exists_resolve (given : Occurrences) (personality : Personality) :
    ∃ products, resolve given personality = .ok products := by
  unfold resolve
  cases h : given.lastInGroup? .modes with
  | none =>
    simp only [Option.map_none, resolveFor]
    split
    · exact ⟨_, rfl⟩
    · split <;> exact ⟨_, rfl⟩
  | some x =>
    have hx := ofMode?_isSome (Occurrences.group?_of_lastInGroup? h) (given.contains .static)
    obtain ⟨products, hp⟩ := Option.isSome_iff_exists.1 hx
    exact ⟨products, by simp [resolveFor, hp]⟩

/-- The products of an invocation. -/
def ofGiven (given : Occurrences) (personality : Personality) : Products :=
  match h : resolve given personality with
  | .ok products => products
  | .error _ => absurd (exists_resolve given personality) (by simp [h])

end Products

end CompilerDriver
