import CompilerDriver.FileType
import CompilerDriver.Instant.Basic

/-!
# Storages

Where files are kept. All that the driver asks of a storage is in the class `Storage`; there are two of
them, one in memory and one with directories like a disk.

A failed attempt to change a storage can still leave traces, for instance a directory that was made on
the way. So an attempt always yields the storage that is left, together with the reason if it failed.
-/

namespace CompilerDriver

/-- What an operating system can say against an operation on files. -/
inductive SystemError where
  | noSuchFile
  | busy
  | fileExists
  | notDirectory
  | isDirectory
  | nameTooLong
deriving DecidableEq, Repr

namespace SystemError

/-- The number of an error. -/
def code : SystemError → Nat
  | .noSuchFile => 2
  | .busy => 16
  | .fileExists => 17
  | .notDirectory => 20
  | .isDirectory => 21
  | .nameTooLong => 36

/-- The name of an error. -/
def description : SystemError → String
  | .noSuchFile => "No such file or directory"
  | .busy => "Device or resource busy"
  | .fileExists => "File exists"
  | .notDirectory => "Not a directory"
  | .isDirectory => "Is a directory"
  | .nameTooLong => "File name too long"

end SystemError

/-- Why a file cannot be read or written. -/
inductive StorageError where
  /-- The storage holds no such file. -/
  | missing (path : Path)
  /-- Nothing can be written at present. -/
  | writeDenied (path : Path)
  /-- No directories can be made at present. -/
  | readOnly
  /-- The path names no file. -/
  | noFileName (path : Path)
  /-- A byte of the path can stand in no path. -/
  | nulInPath
  /-- The contents are no text. -/
  | notText
  | system (error : SystemError)
  /-- Some other reason, in the words of the system. -/
  | other (reason : String)
deriving DecidableEq, Repr

/-- The wording of an error. -/
def StorageError.message : StorageError → String
  | .missing path => s!"no such file: '{path.display}'"
  | .writeDenied path => s!"write to '{path.display}' denied"
  | .readOnly => "read-only"
  | .noFileName path => s!"no file name in '{path.display}'"
  | .nulInPath => "file name contained an unexpected NUL byte"
  | .notText => "stream did not contain valid UTF-8"
  | .system error => s!"{error.description} (os error {error.code})"
  | .other reason => reason

/-- What an attempt to change a storage leaves, and why it failed if it did. -/
structure Attempt (σ : Type) where
  left : σ
  failure : Option StorageError

/-- Goes on with another attempt, unless this one failed. -/
def Attempt.andThen {σ : Type} (attempt : Attempt σ) (next : σ → Attempt σ) : Attempt σ :=
  match attempt.failure with
  | none => next attempt.left
  | some _ => attempt

/-- The operations of a storage. Those that change it are told the current time. -/
class Storage (σ : Type) where
  /-- The contents of a file. -/
  read : σ → Path → Except StorageError Bytes
  /-- The time at which a file was last modified. -/
  modified : σ → Path → Except StorageError Instant
  /-- Whether a path means the same from every directory. -/
  isRooted : σ → Path → Bool
  /-- Makes a directory and all those above it that are missing. -/
  createDirectories : σ → (now : Instant) → Path → Attempt σ
  /-- Replaces the contents of a file. Whoever reads it sees the old or the new contents, never a mix. -/
  writeAtomic : σ → (now : Instant) → Path → Bytes → Attempt σ

namespace Storage

variable {σ : Type} [Storage σ]

/-- The contents of a file that holds text. -/
def textOf (contents : Bytes) : Except StorageError String :=
  match Utf8.decode? contents with
  | some cs => .ok (String.ofList cs)
  | none => .error .notText

/-- The text in a file. -/
def readText (storage : σ) (path : Path) : Except StorageError String :=
  (read storage path).bind textOf

/-- The times at which some inputs were last modified. Inputs that cannot be found are left out, and look
like new ones to the next build. -/
def modificationDates (storage : σ) (inputs : List TypedPath) : OrderedMap TypedPath Instant :=
  OrderedMap.empty.insertAll (inputs.filterMap fun input =>
    match modified storage input.path with
    | .ok time => some (input, time)
    | .error _ => none)

end Storage

end CompilerDriver
