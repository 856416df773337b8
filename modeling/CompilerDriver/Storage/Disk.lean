import CompilerDriver.Storage.Basic

/-!
# Storage on a disk

Files lie in directories, and a path is walked name by name: every component but the last has to lead to a
directory, and the last one too where a separator follows it. A file is written under another name in the
same directory first and then renamed, so a reader finds the old or the new contents.
-/

namespace CompilerDriver

/-- What lies at a place of a disk. -/
inductive DiskNode where
  | file (contents : Bytes) (modified : Instant)
  /-- A directory is modified when an entry is made in it or removed from it. -/
  | directory (modified : Instant)
deriving DecidableEq

/-- When a node was last modified. -/
def DiskNode.modified : DiskNode → Instant
  | .file _ modified => modified
  | .directory modified => modified

/-- The names on the way from the root to a place. -/
abbrev Place := List Bytes

/-- Files in directories. -/
structure Disk where
  nodes : OrderedMap Place DiskNode
  /-- The directory at which relative paths start. -/
  workingDirectory : Place

namespace Disk

/-- A disk on which there is only the root. -/
def blank (now : Instant) : Disk := ⟨OrderedMap.empty.insert [] (.directory now), []⟩

def node? (disk : Disk) (place : Place) : Option DiskNode := disk.nodes.get? place

/-! ## Walking -/

/-- Where a path leads. -/
inductive Spot where
  | taken (place : Place) (node : DiskNode)
  /-- The directory is there, but has no entry of that name. -/
  | free (place : Place)

/-- The greatest length of a name. -/
def maxName : Nat := 255

/-- The greatest length of a path. -/
def maxPath : Nat := 4095

/-- Walks on from a node along the pieces of a path. -/
def walk (disk : Disk) (here : Place) (node : DiskNode) : List Bytes → Except SystemError Spot
  | [] => .ok (.taken here node)
  | piece :: rest =>
    match node, Path.ofPiece piece with
    | .file .., _ => .error .notDirectory
    | .directory _, some (.name name) =>
      let place := here ++ [name]
      if maxName < name.length then .error .nameTooLong
      else match disk.node? place with
        | some node => disk.walk place node rest
        | none => if rest.all (·.isEmpty) then .ok (.free place) else .error .noSuchFile
    | .directory _, some .parent =>
      match disk.node? here.dropLast with
      | some node => disk.walk here.dropLast node rest
      | none => .error .noSuchFile
    | .directory _, _ => disk.walk here node rest

/-- Walks along the pieces of a path from where it starts. -/
def follow (disk : Disk) (path : Path) (pieces : List Bytes) : Except StorageError Spot :=
  if path.bytes.contains 0 then .error .nulInPath
  else if path.bytes.isEmpty then .error (.system .noSuchFile)
  else if maxPath < path.bytes.length then .error (.system .nameTooLong)
  else
    let start := if path.isAbsolute then [] else disk.workingDirectory
    match disk.node? start with
    | some node => (disk.walk start node pieces).mapError .system
    | none => .error (.system .noSuchFile)

/-- Where a path leads. -/
def locate (disk : Disk) (path : Path) : Except StorageError Spot :=
  disk.follow path (Path.pieces path.bytes)

/-- The pieces of a path without what follows its last name, and whether a separator does. -/
def splitTrailing (path : Path) : List Bytes × Bool :=
  let pieces := Path.pieces path.bytes
  let bare := (pieces.reverse.dropWhile (·.isEmpty)).reverse
  (bare, bare.length < pieces.length)

/-- Whether there is anything at a path. -/
def holds (disk : Disk) (path : Path) : Bool :=
  match disk.locate path with
  | .ok (.taken _ _) => true
  | _ => false

/-- Whether there is a directory at a path. -/
def isDirectory (disk : Disk) (path : Path) : Bool :=
  match disk.locate path with
  | .ok (.taken _ (.directory _)) => true
  | _ => false

/-! ## Reading -/

def read (disk : Disk) (path : Path) : Except StorageError Bytes := do
  match ← disk.locate path with
  | .taken _ (.file contents _) => .ok contents
  | .taken _ (.directory _) => .error (.system .isDirectory)
  | .free _ => .error (.system .noSuchFile)

def modified (disk : Disk) (path : Path) : Except StorageError Instant := do
  match ← disk.locate path with
  | .taken _ node => .ok node.modified
  | .free _ => .error (.system .noSuchFile)

/-! ## Changing -/

/-- Notes that the entries of the directory above a place have changed. -/
def touchAbove (disk : Disk) (now : Instant) (place : Place) : Disk :=
  { disk with nodes := disk.nodes.insert place.dropLast (.directory now) }

/-- Sets what lies at a place. -/
def setNode (disk : Disk) (now : Instant) (place : Place) (node : DiskNode) : Disk :=
  let disk := if (disk.node? place).isSome then disk else disk.touchAbove now place
  { disk with nodes := disk.nodes.insert place node }

/-- Removes what lies at a place. -/
def removeNode (disk : Disk) (now : Instant) (place : Place) : Disk :=
  let disk := disk.touchAbove now place
  { disk with nodes := disk.nodes.filterKeys fun other => other != place }

/-- Makes one directory. -/
def createDirectory (disk : Disk) (now : Instant) (path : Path) : Except StorageError Disk := do
  match ← disk.follow path (splitTrailing path).1 with
  | .taken _ _ => .error (.system .fileExists)
  | .free place => .ok (disk.setNode now place (.directory now))

/-- Makes one directory, unless it is there already. -/
def ensureDirectory (disk : Disk) (now : Instant) (path : Path) : Attempt Disk :=
  match disk.createDirectory now path with
  | .ok disk => ⟨disk, none⟩
  | .error e => ⟨disk, if disk.isDirectory path then none else some e⟩

/-- Makes the first of some directories, each of which lies in the next one. The next one is made only if
the first one cannot be made without it. -/
def createChain (now : Instant) : List Path → Disk → Attempt Disk
  | [], disk => ⟨disk, none⟩
  | path :: above, disk =>
    if path.bytes.isEmpty then ⟨disk, none⟩
    else match disk.createDirectory now path with
      | .error (.system .noSuchFile) =>
        (createChain now above disk).andThen fun disk => disk.ensureDirectory now path
      | _ => disk.ensureDirectory now path

def createDirectories (disk : Disk) (now : Instant) (path : Path) : Attempt Disk :=
  createChain now path.ancestors disk

/-- The place of the file that is written when a path is opened for writing. A separator behind its name asks
for a directory, whatever the name is, as long as there is one that it could lie in. -/
def writablePlace (disk : Disk) (path : Path) : Except StorageError Place := do
  let (bare, endsInSeparator) := splitTrailing path
  if endsInSeparator then
    match ← disk.follow path (bare.dropLast ++ [[]]) with
    | .taken _ _ => .error (.system .isDirectory)
    | .free _ => .error (.system .noSuchFile)
  else
    match ← disk.follow path bare with
    | .taken _ (.directory _) => .error (.system .isDirectory)
    | .taken place (.file ..) => .ok place
    | .free place => .ok place

/-- The place that a file gets when it is renamed to a path. -/
def renamedPlace (disk : Disk) (path : Path) : Except StorageError Place := do
  let (bare, endsInSeparator) := splitTrailing path
  let spot ← disk.follow path bare
  if bare.getLast? = some [Path.dot] then .error (.system .busy)
  else if endsInSeparator then .error (.system .notDirectory)
  else match spot with
    | .taken _ (.directory _) => .error (.system .isDirectory)
    | .taken place (.file ..) => .ok place
    | .free place => .ok place

/-- The name under which a file is written before it gets its own. -/
def draftName (name : Bytes) : Bytes := Path.dot :: name ++ Utf8.encode ".tmp".toList

def writeAtomic (disk : Disk) (now : Instant) (path : Path) (contents : Bytes) : Attempt Disk :=
  match path.fileName? with
  | none => ⟨disk, some (.noFileName path)⟩
  | some name =>
    match disk.writablePlace (path.withFileName (draftName name)) with
    | .error e => ⟨disk, some e⟩
    | .ok draft =>
      let file := DiskNode.file contents now
      let drafted := disk.setNode now draft file
      match drafted.renamedPlace path with
      | .error e => ⟨drafted.removeNode now draft, some e⟩
      | .ok place => ⟨(drafted.removeNode now draft).setNode now place file, none⟩

/-- Puts a file on the disk, in a directory that is made if it is missing, and sets its time. -/
def put (disk : Disk) (now : Instant) (path : Path) (contents : Bytes) (modified : Instant) :
    Attempt Disk :=
  let attempt := match path.parent? with
    | some dir => disk.createDirectories now dir
    | none => ⟨disk, none⟩
  attempt.andThen fun disk =>
    match disk.writablePlace path with
    | .error e => ⟨disk, some e⟩
    | .ok place => ⟨disk.setNode now place (.file contents modified.withoutLeap), none⟩

instance : Storage Disk where
  read := read
  modified := modified
  isRooted _ path := path.isAbsolute
  createDirectories := createDirectories
  writeAtomic := writeAtomic

end Disk

end CompilerDriver
