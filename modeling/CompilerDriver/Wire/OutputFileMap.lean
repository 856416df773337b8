import CompilerDriver.Json.Parser
import CompilerDriver.Json.Printer
import CompilerDriver.OutputFileMap
import CompilerDriver.Wire.Path

/-!
# Output file maps on the wire

An output file map is an object with a member for each input, whose value is an object with a member for
each type. Where inputs repeat, the last one's outputs stay, under the spelling of the first.
-/

namespace CompilerDriver.OutputFileMap

/-- The JSON form of the outputs of one input. -/
def outputsToJson? (outputs : OrderedMap FileType Path) : Option Json := do
  return .record (← outputs.entries.mapM fun (type, path) => do return (type.name, ← path.toJson?))

/-- The JSON form of a map, if all its paths have one. -/
def toJson? (map : OutputFileMap) : Option Json := do
  return .record (← map.entries.mapM fun (input, outputs) => do
    return (← input.text?, ← outputsToJson? outputs))

def outputsOfJson? : Json → Option (OrderedMap FileType Path)
  | .object members => do
    let entries ← members.mapM fun (name, value) => do
      return (← FileType.ofName? (← name), ← Path.ofJson? value)
    return OrderedMap.empty.insertAll entries
  | _ => none

def ofJson? : Json → Option OutputFileMap
  | .object members => do
    let entries ← members.mapM fun (name, value) => do
      return (Path.ofString (← name), ← outputsOfJson? value)
    return OrderedMap.empty.insertAll entries
  | _ => none

/-- The map that a document holds. -/
def ofText? (document : String) : Option OutputFileMap := (Json.ofText? document).bind ofJson?

/-- The document that holds a map, if all its paths are text. -/
def text? (map : OutputFileMap) : Option String := map.toJson?.map Json.pretty

end CompilerDriver.OutputFileMap
