import CompilerDriver.BuildRecord.Codec
import CompilerDriver.BuildRecord.Mismatch
import CompilerDriver.Diagnostic
import CompilerDriver.Incremental.Run
import CompilerDriver.Storage.Basic

/-!
# Loading the record of the last build

A run starts from the record that the last one left, if it can be read and if it speaks of the same compiler,
the same options, and no inputs but those of this run. Otherwise the user is told why it is not used.
-/

namespace CompilerDriver.Incremental

/-- Why there is no record of the last build. -/
inductive PriorError where
  | notRead (e : StorageError)
  | notText (fault : Utf8.Fault)
  | notDecoded (e : BuildRecord.DecodeError)
deriving DecidableEq, Repr

/-- The wording of an error. -/
def PriorError.message : PriorError → String
  | .notRead e => e.message
  | .notText fault => fault.message
  | .notDecoded e => e.message

/-- What the user is told of an error with the record at `path`. -/
def PriorError.diagnostic (e : PriorError) (path : Path) : Diagnostic :=
  match e with
  | .notRead _ => .recordNotRead path e.message
  | _ => .recordMalformed path e.message

namespace Run

variable {σ : Type} [Storage σ]

/-- The record that some bytes hold. -/
def recordOfBytes (contents : Bytes) : Except PriorError BuildRecord :=
  match Utf8.decode contents with
  | .error fault => .error (.notText fault)
  | .ok cs => (BuildRecord.decode (String.ofList cs)).mapError .notDecoded

/-- The record of the last build. -/
def readPrior (run : Run) (storage : σ) : Except PriorError BuildRecord :=
  match Storage.read storage run.recordPath with
  | .error e => .error (.notRead e)
  | .ok contents => recordOfBytes contents

/-- The record of the last build, or what the user is told if there is none. -/
def load (run : Run) (storage : σ) : Except Diagnostic BuildRecord :=
  (run.readPrior storage).mapError fun e => e.diagnostic run.recordPath

/-- Why a record says nothing about this run. -/
def mismatch? (run : Run) (record : BuildRecord) : Option Mismatch :=
  record.mismatch? run.swiftVersion run.argsHash run.inputDates.keys

/-- The record of the last build, if this run can start from it, or what the user is told otherwise. -/
def loadUsable (run : Run) (storage : σ) : Except Diagnostic BuildRecord := do
  let record ← run.load storage
  match run.mismatch? record with
  | none => .ok record
  | some mismatch => .error (.recordMismatch mismatch.message)

end Run

end CompilerDriver.Incremental
