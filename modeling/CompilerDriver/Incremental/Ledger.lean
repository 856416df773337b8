import CompilerDriver.Job

/-!
# The ledger of finished jobs

Jobs end in any order. Each of them is entered once, and when the record of the build is put together the
ledger is closed. An entry that comes twice or too late, and a second closing, is a mistake of the caller.
-/

namespace CompilerDriver.Incremental

/-- What has ended so far. -/
structure Ledger where
  results : OrderedMap JobId JobResult := .empty
  /-- Whether the record of the build has been put together. -/
  isClosed : Bool := false
deriving DecidableEq

/-- A mistake in keeping a ledger. -/
inductive LedgerFault where
  | finishedTwice (job : JobId)
  | finishedTooLate (job : JobId)
  | closedTwice (recordPath : Path)
deriving DecidableEq, Repr

/-- The wording of a mistake. -/
def LedgerFault.message : LedgerFault → String
  | .finishedTwice job => s!"job '{job}' reported as finished more than once"
  | .finishedTooLate job => s!"job '{job}' finished after the build record was finalized"
  | .closedTwice recordPath => s!"build record '{recordPath.display}' finalized more than once"

namespace Ledger

/-- Enters how a job ended. -/
def finish (ledger : Ledger) (job : JobId) (result : JobResult) : Except LedgerFault Ledger :=
  if ledger.isClosed then .error (.finishedTooLate job)
  else if ledger.results.contains job then .error (.finishedTwice job)
  else .ok { ledger with results := ledger.results.insert job result }

/-- Enters jobs that all ended alike, one after the other, and counts those that cannot be entered. -/
def finishAll (ledger : Ledger) (result : JobResult) : List JobId → Ledger × Nat
  | [] => (ledger, 0)
  | job :: jobs =>
    match ledger.finish job result with
    | .ok ledger => ledger.finishAll result jobs
    | .error _ =>
      let (ledger, faults) := ledger.finishAll result jobs
      (ledger, faults + 1)

/-- Closes the ledger; the record of the build goes to `recordPath`. -/
def close (ledger : Ledger) (recordPath : Path) : Except LedgerFault Ledger :=
  if ledger.isClosed then .error (.closedTwice recordPath)
  else .ok { ledger with isClosed := true }

end Ledger

end CompilerDriver.Incremental
