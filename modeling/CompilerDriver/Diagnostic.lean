import CompilerDriver.Path.Basic

/-!
# Diagnostics

What the driver tells its user while it goes on working. Each thing there is to tell has its own
constructor function with its wording; nothing here ever stops a build, so none is an error. Diagnostics are
logged, or collected for somebody who asks for them later (`takeAll_foldl_emit`).
-/

namespace CompilerDriver

/-- How much a diagnostic matters. -/
inductive Severity where
  | remark | note | warning | error
deriving DecidableEq, Repr

namespace Severity

/-- All severities, the least first. -/
def all : List Severity := [.remark, .note, .warning, .error]

def name : Severity → String
  | .remark => "remark"
  | .note => "note"
  | .warning => "warning"
  | .error => "error"

/-- The place of a severity in the order. -/
def rank (s : Severity) : Nat := s.ctorIdx

/-- Sorts severities, the least first. -/
def sort (severities : List Severity) : List Severity :=
  severities.mergeSort fun a b => a.rank ≤ b.rank

end Severity

/-- Something to tell the user. -/
structure Diagnostic where
  severity : Severity
  message : String
deriving DecidableEq, Repr

namespace Diagnostic

def warning (message : String) : Diagnostic := ⟨.warning, message⟩

def remark (message : String) : Diagnostic := ⟨.remark, message⟩

/-- A diagnostic on one line. -/
def text (d : Diagnostic) : String := s!"{d.severity.name}: {d.message}"

/-! ## What there is to tell -/

def requiresOutputFileMap : Diagnostic :=
  warning "ignoring -incremental (currently requires an output file map)"

def requiresRecordEntry : Diagnostic :=
  warning ("ignoring -incremental; output file map has no master dependencies entry " ++
    "(\"swift-dependencies\" under \"\")")

def recordNotRead (path : Path) (reason : String) : Diagnostic :=
  remark s!"incremental compilation could not read build record at '{path.display}': {reason}"

def recordMalformed (path : Path) (reason : String) : Diagnostic :=
  remark ("incremental compilation has been disabled due to malformed build record file " ++
    s!"'{path.display}': {reason}")

def recordMismatch (reason : String) : Diagnostic :=
  remark s!"incremental compilation has been disabled, because {reason}"

def recordPathNotAbsolute (path : Path) : Diagnostic :=
  warning ("next compile won't be incremental; could not write build record: " ++
    s!"path '{path.display}' is not absolute")

def recordNotSerialized (reason : String) : Diagnostic :=
  warning s!"next compile won't be incremental; could not serialize build record: {reason}"

def recordNotWritten (path : Path) (reason : String) : Diagnostic :=
  warning ("next compile won't be incremental; could not write build record to " ++
    s!"'{path.display}': {reason}")

/-! ## Log events -/

/-- The level on which a log shows a diagnostic. -/
inductive LogLevel where
  | error | warn | info
deriving DecidableEq, Repr

def LogLevel.name : LogLevel → String
  | .error => "ERROR"
  | .warn => "WARN"
  | .info => "INFO"

/-- An entry of a log. -/
structure LogEvent where
  level : LogLevel
  message : String
  /-- The severity, where the level does not tell it. -/
  severity : Option Severity
deriving DecidableEq, Repr

/-- The entry of a log that shows a diagnostic. -/
def logEvent (d : Diagnostic) : LogEvent :=
  match d.severity with
  | .error => ⟨.error, d.message, none⟩
  | .warning => ⟨.warn, d.message, none⟩
  | .note | .remark => ⟨.info, d.message, some d.severity⟩

/-! ## Collecting -/

/-- Keeps the diagnostics that it is told until they are taken away. -/
structure Collector where
  /-- The diagnostics it keeps, the first one told first. -/
  diagnostics : List Diagnostic := []
deriving DecidableEq, Repr

namespace Collector

def emit (collector : Collector) (d : Diagnostic) : Collector := ⟨collector.diagnostics ++ [d]⟩

/-- Hands out the diagnostics and starts again with none. -/
def takeAll (collector : Collector) : List Diagnostic × Collector := (collector.diagnostics, {})

/-- The number of diagnostics of a severity. -/
def count (collector : Collector) (severity : Severity) : Nat :=
  collector.diagnostics.countP fun d => d.severity == severity

/-- What was told is handed out once, and in its order. -/
theorem takeAll_foldl_emit (collector : Collector) (told : List Diagnostic) :
    (told.foldl emit collector).takeAll = (collector.diagnostics ++ told, {}) := by
  induction told generalizing collector with
  | nil => rw [List.foldl_nil, takeAll, List.append_nil]
  | cons d told ih => rw [List.foldl_cons, ih, emit, List.append_assoc, List.singleton_append]

example : (([warning "w", remark "r", warning "w2"].foldl emit {}).count .warning) = 2 := by decide

end Collector

end Diagnostic

end CompilerDriver
