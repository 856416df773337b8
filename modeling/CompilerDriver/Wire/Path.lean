import CompilerDriver.FileType
import CompilerDriver.Json.Reader

/-!
# Paths on the wire

A path is written as a string, which only a path that is text can be.
-/

namespace CompilerDriver

namespace Path

/-- The JSON form of a path, if it has one. -/
def toJson? (p : Path) : Option Json := p.text?.map Json.text

def ofJson? (value : Json) : Option Path := value.text?.map ofString

/-- Why a value with paths in it may have no JSON form. -/
def notTextMessage : String := "path contains invalid UTF-8 characters"

end Path

namespace FileType

def toJson (t : FileType) : Json := .text t.name

def ofJson? (value : Json) : Option FileType := value.choice? name all

end FileType

namespace TypedPath

/-- The fields of a typed path, in their order. -/
def fieldNames : List String := ["path", "type"]

/-- The JSON form of a typed path, if its path has one. -/
def toJson? (typed : TypedPath) : Option Json := do
  return .record [("path", ← typed.path.toJson?), ("type", typed.type.toJson)]

def ofJson? (value : Json) : Option TypedPath := do
  let [path, type] ← value.slots fieldNames | none
  return ⟨← path.required Path.ofJson?, ← type.required FileType.ofJson?⟩

/-- The JSON form of a list of typed paths, if each has one. -/
def listToJson? (files : List TypedPath) : Option Json := (files.mapM toJson?).map .array

def listOfJson? (value : Json) : Option (List TypedPath) := value.list? ofJson?

end TypedPath

end CompilerDriver
