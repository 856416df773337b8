import CompilerDriver.Path.Names

/-!
# Types of files

The kinds of files that the driver reads and writes, and paths together with the type of the file they
name. The name of a type stands for it in output file maps and records; its extension is what such a
file is usually called.
-/

namespace CompilerDriver

/-- The type of a file. -/
inductive FileType where
  | swift | sil | sib | rawSil | rawSib | object | assembly | llvmIr | llvmBitcode | ast | pch | pcm
  | importedModules | indexData | remap | swiftModule | swiftDocumentation | swiftInterface
  | swiftDependencies | dependencies | diagnostics | image | tbd
deriving DecidableEq, Repr

namespace FileType

/-- All types, in their order. -/
def all : List FileType :=
  [.swift, .sil, .sib, .rawSil, .rawSib, .object, .assembly, .llvmIr, .llvmBitcode, .ast, .pch, .pcm,
    .importedModules, .indexData, .remap, .swiftModule, .swiftDocumentation, .swiftInterface,
    .swiftDependencies, .dependencies, .diagnostics, .image, .tbd]

/-- The place of a type in the order. -/
def rank (t : FileType) : Nat := t.ctorIdx

instance : Ord FileType := ⟨compareOn rank⟩

instance : Std.TransOrd FileType := inferInstanceAs (Std.TransCmp (compareOn rank))

/-- The name that stands for a type. -/
def name : FileType → String
  | .swift => "swift"
  | .sil => "sil"
  | .sib => "sib"
  | .rawSil => "raw-sil"
  | .rawSib => "raw-sib"
  | .object => "object"
  | .assembly => "assembly"
  | .llvmIr => "llvm-ir"
  | .llvmBitcode => "llvm-bc"
  | .ast => "ast-dump"
  | .pch => "pch"
  | .pcm => "pcm"
  | .importedModules => "imported-modules"
  | .indexData => "index-data"
  | .remap => "remap"
  | .swiftModule => "swiftmodule"
  | .swiftDocumentation => "swiftdoc"
  | .swiftInterface => "swiftinterface"
  | .swiftDependencies => "swift-dependencies"
  | .dependencies => "dependencies"
  | .diagnostics => "diagnostics"
  | .image => "image"
  | .tbd => "tbd"

/-- The usual extension of a file of a type. -/
def extension : FileType → String
  | .rawSil => "sil"
  | .rawSib => "sib"
  | .object => "o"
  | .assembly => "s"
  | .llvmIr => "ll"
  | .llvmBitcode => "bc"
  | .ast => "ast"
  | .importedModules => "importedmodules"
  | .indexData => "indexdata"
  | .swiftDependencies => "swiftdeps"
  | .dependencies => "d"
  | .diagnostics => "dia"
  | .image => "out"
  | t => t.name

/-- The types that can be told from an extension; every other file is handed to the linker. -/
def guessable : List FileType := [.swift, .sil, .sib, .swiftModule, .pcm, .tbd]

/-- The type that an input is taken to have. -/
def ofInput (path : Path) : FileType :=
  match path.extension? with
  | some extension =>
    (guessable.find? fun t => (Path.ofString t.extension).bytes == extension).getD .object
  | none => .object

/-- Whether files of a type are part of the compilation proper. -/
def isCompiled : FileType → Bool
  | .swift | .sil | .sib | .rawSil | .rawSib => true
  | _ => false

/-- The type of a name. -/
def ofName? (name : String) : Option FileType := all.find? fun t => t.name == name

theorem mem_all (t : FileType) : t ∈ all := by cases t <;> decide

/-- A type is found under its name. -/
theorem ofName?_name (t : FileType) : ofName? t.name = some t := by
  have each : ∀ t ∈ all, ofName? t.name = some t := by decide +kernel
  exact each t (mem_all t)

/-- Types have different places in the order. -/
theorem rank_inj {s t : FileType} (h : s.rank = t.rank) : s = t := by
  have each : ∀ s ∈ all, ∀ t ∈ all, s.rank = t.rank → s = t := by decide +kernel
  exact each s (mem_all s) t (mem_all t) h

end FileType

/-- The path of a file with its type. -/
structure TypedPath where
  path : Path
  type : FileType
deriving DecidableEq, Repr

namespace TypedPath

/-- Typed paths are ordered by path first, then by type. -/
instance : Ord TypedPath := ⟨compareLex (compareOn path) (compareOn type)⟩

instance : Std.TransOrd TypedPath :=
  inferInstanceAs (Std.TransCmp (compareLex (compareOn path) (compareOn type)))

/-- An input, with the type that its extension suggests. -/
def ofInput (path : Path) : TypedPath := ⟨path, .ofInput path⟩

end TypedPath

end CompilerDriver
