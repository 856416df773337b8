import CompilerDriver.BuildRecord.Codec
import CompilerDriver.Diagnostic
import CompilerDriver.Incremental.Ledger
import CompilerDriver.Incremental.Run
import CompilerDriver.Storage.Basic

/-!
# Saving the record of a run

The record is written once, when all jobs have ended. If that fails, the next build starts from nothing, and
the user is told why; the build itself is none the worse for it.
-/

namespace CompilerDriver.Incremental

/-- What saving a record left, and what the user is told if it failed. -/
structure Saved (σ : Type) where
  storage : σ
  diagnostic? : Option Diagnostic

namespace Run

variable {σ : Type} [Storage σ]

/-- Writes the bytes of a record to its place, in a directory that is made if it is missing. -/
def write (run : Run) (storage : σ) (now : Instant) (contents : Bytes) : Attempt σ :=
  let attempt : Attempt σ := match run.recordPath.parent? with
    | some dir =>
      if dir.bytes.isEmpty then ⟨storage, none⟩ else Storage.createDirectories storage now dir
    | none => ⟨storage, none⟩
  attempt.andThen fun storage => Storage.writeAtomic storage now run.recordPath contents

/-- Writes a record to its place. -/
def save (run : Run) (storage : σ) (now : Instant) (record : BuildRecord) : Saved σ :=
  match record.encode with
  | .error (.notAbsolute path) => ⟨storage, some (.recordPathNotAbsolute path)⟩
  | .error e => ⟨storage, some (.recordNotSerialized e.message)⟩
  | .ok text =>
    let attempt := run.write storage now (Utf8.encode text.toList)
    ⟨attempt.left, attempt.failure.map fun e => .recordNotWritten run.recordPath e.message⟩

/-- Closes the ledger and saves the record of the run. -/
def finalize (run : Run) (ledger : Ledger) (storage : σ) (now : Instant) (jobs : List Job)
    (skipped : Option (OrderedSet TypedPath)) : Except LedgerFault (Ledger × Saved σ) := do
  let closed ← ledger.close run.recordPath
  let record := run.record (Storage.isRooted storage) closed.results jobs skipped
  return (closed, run.save storage now record)

end Run

end CompilerDriver.Incremental
