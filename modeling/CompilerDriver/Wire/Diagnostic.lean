import CompilerDriver.Diagnostic
import CompilerDriver.Json.Reader

/-!
# Diagnostics on the wire
-/

namespace CompilerDriver

namespace Severity

def toJson (severity : Severity) : Json := .text severity.name

def ofJson? (value : Json) : Option Severity := value.choice? name all

end Severity

namespace Diagnostic

/-- The fields of a diagnostic, in their order. -/
def fieldNames : List String := ["severity", "message"]

def toJson (d : Diagnostic) : Json :=
  .record [("severity", d.severity.toJson), ("message", .text d.message)]

def ofJson? (value : Json) : Option Diagnostic := do
  let [severity, message] ← value.slots fieldNames | none
  return ⟨← severity.required Severity.ofJson?, ← message.required Json.text?⟩

end Diagnostic

end CompilerDriver
