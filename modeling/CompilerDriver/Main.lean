import CompilerDriver.CommandLine.Run

/-!
# The program

Reads the files that the command line names, runs the command, and prints what it comes to.
-/

namespace CompilerDriver.Program

/-- The number of an error. Depending on the operation it comes with a minus sign. -/
def errorNumber (code : UInt32) : Nat := code.toInt32.toInt.natAbs

/-- What the system says against reading a file. -/
def storageError : IO.Error → StorageError
  | .noFileOrDirectory _ _ _ => .system .noSuchFile
  | .inappropriateType _ code details =>
    if errorNumber code = SystemError.isDirectory.code then .system .isDirectory
    else if errorNumber code = SystemError.notDirectory.code then .system .notDirectory
    else .other details
  | .permissionDenied _ code _ => .other s!"Permission denied (os error {errorNumber code})"
  | e => .other (toString e)

/-- The contents of a file. -/
def readFile (path : Path) : IO (Except StorageError Bytes) := do
  match ← (IO.FS.readBinFile path.display).toBaseIO with
  | .ok contents => return .ok contents.toList
  | .error e => return .error (storageError e)

/-- The files that a command line makes the program read, with what was read. -/
def readFiles (words : List String) : IO (List (Path × Except StorageError Bytes)) :=
  match CommandLine.read words with
  | .ok (.run invocation) => invocation.files.mapM fun path => do return (path, ← readFile path)
  | _ => return []

/-- Looks a file up among those that were read. -/
def lookUp (files : List (Path × Except StorageError Bytes)) (path : Path) :
    Except StorageError Bytes :=
  match files.find? fun file => file.1 == path with
  | some file => file.2
  | none => .error (.missing path)

end CompilerDriver.Program

open CompilerDriver in
def main (words : List String) : IO UInt32 := do
  let files ← Program.readFiles words
  let outcome := CommandLine.run words (Program.lookUp files)
  IO.print outcome.output
  IO.eprint outcome.errors
  return outcome.exitCode.toUInt32
