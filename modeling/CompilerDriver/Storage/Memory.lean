import CompilerDriver.Storage.Basic

/-!
# Storage in memory

A map from paths to files. Directories are implied by the files in them, so making one changes nothing.
Writing can be forbidden, which shows how a build gets along without it.
-/

namespace CompilerDriver

/-- A file in memory. -/
structure MemoryFile where
  contents : Bytes
  modified : Instant
deriving DecidableEq

/-- Files in memory. -/
structure MemoryStorage where
  files : OrderedMap Path MemoryFile := .empty
  /-- Whether every attempt to change the storage fails. -/
  deniesWrites : Bool := false
  /-- Whether every path counts as one that means the same from every directory. -/
  rootsEverything : Bool := false
deriving DecidableEq

namespace MemoryStorage

/-- Puts a file into the storage, whether writing is forbidden or not. -/
def put (storage : MemoryStorage) (path : Path) (contents : Bytes) (modified : Instant) :
    MemoryStorage :=
  { storage with files := storage.files.insert path ⟨contents, modified⟩ }

/-- Forbids or allows writing. -/
def denyWrites (storage : MemoryStorage) (denies : Bool) : MemoryStorage :=
  { storage with deniesWrites := denies }

/-- The file at a path. -/
def file (storage : MemoryStorage) (path : Path) : Except StorageError MemoryFile :=
  match storage.files.get? path with
  | some file => .ok file
  | none => .error (.missing path)

/-- Whether there is a file at a path. -/
def holds (storage : MemoryStorage) (path : Path) : Bool := storage.files.contains path

def createDirectories (storage : MemoryStorage) : Attempt MemoryStorage :=
  ⟨storage, if storage.deniesWrites then some .readOnly else none⟩

def writeAtomic (storage : MemoryStorage) (now : Instant) (path : Path) (contents : Bytes) :
    Attempt MemoryStorage :=
  if storage.deniesWrites then ⟨storage, some (.writeDenied path)⟩
  else ⟨storage.put path contents now, none⟩

instance : Storage MemoryStorage where
  read storage path := (storage.file path).map (·.contents)
  modified storage path := (storage.file path).map (·.modified)
  isRooted storage path := storage.rootsEverything || path.isAbsolute
  createDirectories storage _ _ := storage.createDirectories
  writeAtomic := writeAtomic

/-- After a file was put into the storage, it is found there under every spelling of its path, and all other
files are as they were. -/
theorem file_put (storage : MemoryStorage) (path : Path) (contents : Bytes) (time : Instant)
    (other : Path) :
    (storage.put path contents time).file other =
      if compare other path = .eq then .ok ⟨contents, time⟩ else storage.file other := by
  simp only [file, put, OrderedMap.get?_insert]
  by_cases h : compare other path = .eq
  · simp only [if_pos h]
  · simp only [if_neg h]

theorem read_put (storage : MemoryStorage) (path : Path) (contents : Bytes) (time : Instant)
    (other : Path) :
    Storage.read (storage.put path contents time) other =
      if compare other path = .eq then .ok contents else Storage.read storage other := by
  show ((storage.put path contents time).file other).map (·.contents) = _
  rw [file_put]
  split <;> rfl

end MemoryStorage

end CompilerDriver
