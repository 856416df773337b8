import CompilerDriver.BuildRecord.Basic

/-!
# Records that cannot be used

A record says nothing about a build with another compiler or other arguments, and it cannot be used when
an input has disappeared: nobody would notice what depended on it. New inputs do no harm.
-/

namespace CompilerDriver

/-- Why a record cannot be used for a build. -/
inductive Mismatch where
  | compilerVersion (previous current : String)
  | arguments
  /-- Inputs of the recorded build that the new one does not have. -/
  | missingInputs (paths : List Path)
deriving DecidableEq, Repr

/-- The wording of a mismatch. -/
def Mismatch.message : Mismatch → String
  | .compilerVersion previous current =>
    s!"the compiler version has changed from '{previous}' to '{current}'"
  | .arguments => "different arguments were passed to the compiler"
  | .missingInputs paths =>
    "the following inputs were used in the previous compilation but not in this one: " ++
      String.intercalate ", " (paths.map Path.display)

namespace BuildRecord

/-- The paths of recorded inputs that are not among `current`, in the order of the record. -/
def missingPaths (record : BuildRecord) (current : List Path) : List Path :=
  (record.inputDates.keys.map (·.path)).filter fun path =>
    !current.any fun other => compare path other == .eq

/-- The first reason why the record cannot be used for a build with this compiler, the fingerprint of these
arguments, and these inputs. -/
def mismatch? (record : BuildRecord) (swiftVersion argsHash : String) (current : List TypedPath) :
    Option Mismatch :=
  if record.swiftVersion ≠ swiftVersion then
    some (.compilerVersion record.swiftVersion swiftVersion)
  else if record.argsHash ≠ argsHash then some .arguments
  else
    match record.missingPaths (current.map (·.path)) with
    | [] => none
    | paths => some (.missingInputs paths)

end BuildRecord

end CompilerDriver
