import CompilerDriver.Path.Basic

/-!
# Names of files

The last component of a path, its stem and extension, the directory it lies in, and the paths made
from these: a sibling with another name, and a relative path resolved against a directory.
-/

namespace CompilerDriver.Path

/-! ## The last component -/

/-- The name a path ends in. The root, `.`, `..` and the empty path have none. -/
def fileName? (p : Path) : Option Bytes :=
  match p.components.getLast? with
  | some (.name bytes) => some bytes
  | _ => none

/-- What stands before and after the last occurrence of `sep`. -/
def splitAtLast (sep : UInt8) : Bytes → Option (Bytes × Bytes)
  | [] => none
  | b :: rest =>
    match splitAtLast sep rest with
    | some (before, after) => some (b :: before, after)
    | none => if b = sep then some ([], rest) else none

/-- A name as stem and extension. The last dot separates them, unless nothing stands before it: a
hidden file such as `.profile` is all stem. -/
def stemAndExtension (name : Bytes) : Bytes × Option Bytes :=
  match splitAtLast dot name with
  | some (b :: before, after) => (b :: before, some after)
  | _ => (name, none)

/-- The stem of the name a path ends in. -/
def stem? (p : Path) : Option Bytes := p.fileName?.map fun name => (stemAndExtension name).1

/-- The extension of the name a path ends in. -/
def extension? (p : Path) : Option Bytes := p.fileName?.bind fun name => (stemAndExtension name).2

/-- Bytes as text, each broken sequence shown as U+FFFD. -/
def lossyText (bytes : Bytes) : String := String.ofList (Utf8.decodeLossy bytes)

/-! ## Directories -/

/-- Leaves out the stretches at the end that name no component. -/
def trimPieces (ps : List Bytes) : List Bytes :=
  (ps.reverse.dropWhile fun piece => (ofPiece piece).isNone).reverse

/-- The part of a path that `parent?` never shortens: the root, or a leading `.`. -/
def anchor (p : Path) : Bytes :=
  match p.bytes with
  | [] => []
  | b :: rest =>
    if b = slash then [slash]
    else if b = dot ∧ (rest = [] ∨ rest.head? = some slash) then [dot]
    else []

/-- The directory in which a path's last component lies. Noise at its end is left out. The root has
none, and neither has the empty path. -/
def parent? (p : Path) : Option Path :=
  let anchor := p.anchor
  match trimPieces (pieces (p.bytes.drop anchor.length)) with
  | [] => if anchor = [dot] then some empty else none
  | ps => some ⟨anchor ++ joinPieces (trimPieces ps.dropLast)⟩

/-- Resolves `p` against the directory `dir`. An absolute path stands for itself. -/
def join (dir p : Path) : Path :=
  if p.isAbsolute then p
  else if dir.bytes = [] ∨ dir.bytes.getLast? = some slash then ⟨dir.bytes ++ p.bytes⟩
  else ⟨dir.bytes ++ slash :: p.bytes⟩

/-- The path of a file called `name` that takes the place of the one that `p` names. Where `p` names no
file, `name` is put behind it. -/
def withFileName (p : Path) (name : Bytes) : Path :=
  let dir := if p.fileName?.isSome then p.parent?.getD p else p
  dir.join ⟨name⟩

/-- A path and the directories above it, from the deepest up, `steps` of them at most. -/
def ancestorsWithin : (steps : Nat) → Path → List Path
  | 0, p => [p]
  | steps + 1, p => p :: match p.parent? with
    | some dir => ancestorsWithin steps dir
    | none => []

/-- A path and all directories above it, from the deepest up. There is at most one for each component. -/
def ancestors (p : Path) : List Path := ancestorsWithin p.components.length p

/-! ## Laws -/

/-- Cutting at the last separator loses nothing but that separator. -/
theorem eq_of_splitAtLast {sep : UInt8} {bs before after : Bytes}
    (h : splitAtLast sep bs = some (before, after)) : bs = before ++ sep :: after := by
  induction bs generalizing before after with
  | nil => cases h
  | cons b rest ih =>
    rw [splitAtLast] at h
    split at h
    next x y hr => cases h; simp [ih hr]
    next =>
      split at h
      next hb => cases h; simp [hb]
      next => cases h

/-- What stands after the last separator holds none. -/
theorem not_mem_after {sep : UInt8} {bs before after : Bytes}
    (h : splitAtLast sep bs = some (before, after)) : sep ∉ after := by
  induction bs generalizing before after with
  | nil => cases h
  | cons b rest ih =>
    rw [splitAtLast] at h
    split at h
    next x y hr => cases h; exact ih hr
    next hr =>
      split at h
      next hb =>
        cases h
        clear ih hb
        induction rest with
        | nil => simp
        | cons c rest ih =>
          rw [splitAtLast] at hr
          split at hr
          next => cases hr
          next hr' =>
            split at hr
            next => cases hr
            next hc => simp [ih hr', Ne.symm hc]
      next => cases h

/-- A path resolved against an absolute directory is absolute. -/
theorem isAbsolute_join {dir : Path} (h : dir.isAbsolute = true) (p : Path) :
    (dir.join p).isAbsolute = true := by
  obtain ⟨ds⟩ := dir
  unfold join
  split
  · assumption
  · cases ds with
    | nil => cases h
    | cons d ds => split <;> simpa [isAbsolute] using h

end CompilerDriver.Path
