/-!
# The options of the driver

Every option that the driver knows, in a fixed order, with all that is to be known of it: its spelling
and other spellings for it, how it takes an argument, the family of which only the last member counts,
and whether a change of it makes the results of an earlier build useless.

The positional input is an option too, without a spelling of its own on the command line.
-/

namespace CompilerDriver

/-- An option of the driver. -/
inductive DriverOption where
  | emitExecutable | emitLibrary | emitObject | emitAssembly | emitSil | emitSilgen | emitSib
  | emitSibgen | emitIr | emitBc | dumpAst | emitPch | emitPcm | emitImportedModules | indexFile
  | updateCode | parse | resolveImports | typecheck | dumpParse | printAst | dumpScopeMaps
  | dumpTypeRefinementContexts | dumpInterfaceHash | dumpTypeInfo | verifyDebugInfo | repl
  | deprecatedIntegratedRepl | lldbRepl | emitModule | emitModulePath | static
  | wholeModuleOptimization | noWholeModuleOptimization | incremental | outputFileMap | moduleName
  | outputPath | define | optimizeNone | optimize | optimizeSize | debugInfo | debugInfoNone | sdk
  | target | swiftVersion | importPath | frameworkPath | enableTesting | enableLibraryEvolution
  | jobs | verbose | driverBatchSeed | driverBatchCount | driverBatchSizeLimit | workingDirectory
  | input
deriving DecidableEq, Repr

/-- How an option takes an argument. -/
inductive OptionForm where
  /-- It takes none. -/
  | flag
  /-- The argument is the next word, or follows an equals sign. -/
  | separate
  /-- As `separate`, and the argument may also be glued to the spelling. -/
  | joined
  /-- The option is itself an argument: the path of an input. -/
  | positional
deriving DecidableEq, Repr

/-- A family of options that exclude one another; the last one given counts. -/
inductive OptionGroup where
  /-- What the driver is to produce. -/
  | modes
  /-- How much to optimize. -/
  | optimization
  /-- How much to keep for a debugger. -/
  | debugInfo
deriving DecidableEq, Repr

/-- What is to be known of an option. -/
structure OptionEntry where
  spelling : String
  form : OptionForm
  group? : Option OptionGroup
  /-- Whether a change of the option makes the results of an earlier build useless. -/
  invalidates : Bool
  aliases : List String
deriving DecidableEq, Repr

namespace DriverOption

/-- All options, in the order of the table. -/
def all : List DriverOption :=
  [.emitExecutable, .emitLibrary, .emitObject, .emitAssembly, .emitSil, .emitSilgen, .emitSib,
    .emitSibgen, .emitIr, .emitBc, .dumpAst, .emitPch, .emitPcm, .emitImportedModules, .indexFile,
    .updateCode, .parse, .resolveImports, .typecheck, .dumpParse, .printAst, .dumpScopeMaps,
    .dumpTypeRefinementContexts, .dumpInterfaceHash, .dumpTypeInfo, .verifyDebugInfo, .repl,
    .deprecatedIntegratedRepl, .lldbRepl, .emitModule, .emitModulePath, .static,
    .wholeModuleOptimization, .noWholeModuleOptimization, .incremental, .outputFileMap,
    .moduleName, .outputPath, .define, .optimizeNone, .optimize, .optimizeSize, .debugInfo,
    .debugInfoNone, .sdk, .target, .swiftVersion, .importPath, .frameworkPath, .enableTesting,
    .enableLibraryEvolution, .jobs, .verbose, .driverBatchSeed, .driverBatchCount,
    .driverBatchSizeLimit, .workingDirectory, .input]

/-- The table. -/
def entry : DriverOption → OptionEntry
  | .emitExecutable => ⟨"-emit-executable", .flag, some .modes, false, []⟩
  | .emitLibrary => ⟨"-emit-library", .flag, some .modes, false, []⟩
  | .emitObject => ⟨"-emit-object", .flag, some .modes, false, ["-c"]⟩
  | .emitAssembly => ⟨"-emit-assembly", .flag, some .modes, false, ["-S"]⟩
  | .emitSil => ⟨"-emit-sil", .flag, some .modes, false, []⟩
  | .emitSilgen => ⟨"-emit-silgen", .flag, some .modes, false, []⟩
  | .emitSib => ⟨"-emit-sib", .flag, some .modes, false, []⟩
  | .emitSibgen => ⟨"-emit-sibgen", .flag, some .modes, false, []⟩
  | .emitIr => ⟨"-emit-ir", .flag, some .modes, false, []⟩
  | .emitBc => ⟨"-emit-bc", .flag, some .modes, false, []⟩
  | .dumpAst => ⟨"-dump-ast", .flag, some .modes, false, []⟩
  | .emitPch => ⟨"-emit-pch", .flag, some .modes, false, []⟩
  | .emitPcm => ⟨"-emit-pcm", .flag, some .modes, false, []⟩
  | .emitImportedModules => ⟨"-emit-imported-modules", .flag, some .modes, false, []⟩
  | .indexFile => ⟨"-index-file", .flag, some .modes, false, []⟩
  | .updateCode => ⟨"-update-code", .flag, some .modes, false, []⟩
  | .parse => ⟨"-parse", .flag, some .modes, false, []⟩
  | .resolveImports => ⟨"-resolve-imports", .flag, some .modes, false, []⟩
  | .typecheck => ⟨"-typecheck", .flag, some .modes, false, []⟩
  | .dumpParse => ⟨"-dump-parse", .flag, some .modes, false, []⟩
  | .printAst => ⟨"-print-ast", .flag, some .modes, false, []⟩
  | .dumpScopeMaps => ⟨"-dump-scope-maps", .separate, some .modes, false, []⟩
  | .dumpTypeRefinementContexts => ⟨"-dump-type-refinement-contexts", .flag, some .modes, false, []⟩
  | .dumpInterfaceHash => ⟨"-dump-interface-hash", .flag, some .modes, false, []⟩
  | .dumpTypeInfo => ⟨"-dump-type-info", .flag, some .modes, false, []⟩
  | .verifyDebugInfo => ⟨"-verify-debug-info", .flag, some .modes, false, []⟩
  | .repl => ⟨"-repl", .flag, some .modes, false, []⟩
  | .deprecatedIntegratedRepl => ⟨"-deprecated-integrated-repl", .flag, some .modes, false, []⟩
  | .lldbRepl => ⟨"-lldb-repl", .flag, some .modes, false, []⟩
  | .emitModule => ⟨"-emit-module", .flag, none, false, []⟩
  | .emitModulePath => ⟨"-emit-module-path", .separate, none, false, []⟩
  | .static => ⟨"-static", .flag, none, false, []⟩
  | .wholeModuleOptimization => ⟨"-whole-module-optimization", .flag, none, false, ["-wmo"]⟩
  | .noWholeModuleOptimization => ⟨"-no-whole-module-optimization", .flag, none, false, []⟩
  | .incremental => ⟨"-incremental", .flag, none, false, []⟩
  | .outputFileMap => ⟨"-output-file-map", .separate, none, false, []⟩
  | .moduleName => ⟨"-module-name", .separate, none, true, []⟩
  | .outputPath => ⟨"-o", .separate, none, false, []⟩
  | .define => ⟨"-D", .joined, none, true, []⟩
  | .optimizeNone => ⟨"-Onone", .flag, some .optimization, true, []⟩
  | .optimize => ⟨"-O", .flag, some .optimization, true, []⟩
  | .optimizeSize => ⟨"-Osize", .flag, some .optimization, true, []⟩
  | .debugInfo => ⟨"-g", .flag, some .debugInfo, true, []⟩
  | .debugInfoNone => ⟨"-gnone", .flag, some .debugInfo, true, []⟩
  | .sdk => ⟨"-sdk", .separate, none, true, []⟩
  | .target => ⟨"-target", .separate, none, true, []⟩
  | .swiftVersion => ⟨"-swift-version", .separate, none, true, []⟩
  | .importPath => ⟨"-I", .joined, none, true, []⟩
  | .frameworkPath => ⟨"-F", .joined, none, true, []⟩
  | .enableTesting => ⟨"-enable-testing", .flag, none, true, []⟩
  | .enableLibraryEvolution => ⟨"-enable-library-evolution", .flag, none, true, []⟩
  | .jobs => ⟨"-j", .joined, none, false, []⟩
  | .verbose => ⟨"-v", .flag, none, false, []⟩
  | .driverBatchSeed => ⟨"-driver-batch-seed", .separate, none, false, []⟩
  | .driverBatchCount => ⟨"-driver-batch-count", .separate, none, false, []⟩
  | .driverBatchSizeLimit => ⟨"-driver-batch-size-limit", .separate, none, false, []⟩
  | .workingDirectory => ⟨"-working-directory", .separate, none, false, []⟩
  | .input => ⟨"<input>", .positional, none, false, []⟩

def spelling (o : DriverOption) : String := o.entry.spelling

def form (o : DriverOption) : OptionForm := o.entry.form

def group? (o : DriverOption) : Option OptionGroup := o.entry.group?

/-- Whether a change of the option makes the results of an earlier build useless. -/
def invalidates (o : DriverOption) : Bool := o.entry.invalidates

def aliases (o : DriverOption) : List String := o.entry.aliases

/-- Whether the option is the positional input. -/
def isPositional (o : DriverOption) : Bool := o.form == .positional

/-- Whether the option is spelled out and followed by an argument. -/
def takesArgument (o : DriverOption) : Bool := o.form == .separate || o.form == .joined

/-- Whether `word` spells the option. Nothing spells the positional input. -/
def isSpelledBy (o : DriverOption) (word : String) : Bool :=
  !o.isPositional && (o.spelling == word || o.aliases.contains word)

/-- The option that a word spells. -/
def ofSpelling? (word : String) : Option DriverOption := all.find? fun o => o.isSpelledBy word

/-- The argument that is glued to the spelling of the option in `word`: what follows the spelling, if that
is anything at all. -/
def gluedArgument? (o : DriverOption) (word : String) : Option String :=
  let spelling := o.spelling.toList
  if o.form = .joined ∧ spelling.isPrefixOf word.toList ∧ spelling.length < word.toList.length then
    some (String.ofList (word.toList.drop spelling.length))
  else none

/-- The option to whose spelling an argument is glued in `word`. No such spelling begins another, so at
most one option fits. -/
def gluedIn? (word : String) : Option DriverOption :=
  all.find? fun o => (o.gluedArgument? word).isSome

/-! ## Facts about the table -/

/-- The list of all options leaves none out. -/
theorem mem_all (o : DriverOption) : o ∈ all := by cases o <;> decide

/-- Every option but the positional input is found under its own spelling. -/
theorem ofSpelling?_spelling {o : DriverOption} (h : o.isPositional = false) :
    ofSpelling? o.spelling = some o := by
  have each : ∀ o ∈ all, o.isPositional = false → ofSpelling? o.spelling = some o := by
    decide +kernel
  exact each o (mem_all o) h

/-- An option is found under every other spelling it has. -/
theorem ofSpelling?_alias {o : DriverOption} {a : String} (h : a ∈ o.aliases) :
    ofSpelling? a = some o := by
  have each : ∀ o ∈ all, ∀ a ∈ o.aliases, ofSpelling? a = some o := by decide +kernel
  exact each o (mem_all o) a h

end DriverOption

end CompilerDriver
