import CompilerDriver.OrderedMap
import CompilerDriver.Text.Utf8

/-!
# Paths

A path is a string of bytes; any bytes but NUL may stand in one. What a path names is decided by its
*components*: repeated separators, a trailing separator and `.` between separators are noise, while
`..` is never resolved. Paths are ordered and told apart by their components, so `/a/b` and `/a//b`
compare equal although they are written differently, and `/a/b` comes before `/a-b`.
-/

namespace CompilerDriver

/-- A path, as it is written. -/
structure Path where
  bytes : Bytes
deriving DecidableEq, Repr, Inhabited

namespace Path

/-- The separator `/`. -/
def slash : UInt8 := 47

/-- The byte `.`. -/
def dot : UInt8 := 46

/-- The empty path. -/
def empty : Path := ⟨[]⟩

/-- The path that is written like a text. -/
def ofString (s : String) : Path := ⟨Utf8.encode s.toList⟩

/-- The text of a path, if its bytes are one. -/
def text? (p : Path) : Option String := (Utf8.decode? p.bytes).map String.ofList

/-- The text that stands for a path in messages: each broken sequence shows as U+FFFD. -/
def display (p : Path) : String := String.ofList (Utf8.decodeLossy p.bytes)

/-- A path is absolute if it begins with the separator. -/
def isAbsolute (p : Path) : Bool := p.bytes.head? == some slash

theorem text?_ofString (s : String) : (ofString s).text? = some s := by
  simp [text?, ofString, Utf8.decode?, Utf8.decode_encode, Except.toOption]

/-- A path that is text is the path of that text. -/
theorem ofString_of_text? {p : Path} {s : String} (h : p.text? = some s) : ofString s = p := by
  obtain ⟨bs⟩ := p
  simp only [text?, Utf8.decode?, Option.map_eq_some_iff] at h
  obtain ⟨cs, hcs, rfl⟩ := h
  cases hd : Utf8.decode bs with
  | error e => simp [hd, Except.toOption] at hcs
  | ok ds =>
    simp only [hd, Except.toOption, Option.some.injEq] at hcs
    subst hcs
    simp [ofString, Utf8.encode_of_decode hd]

/-! ## Components -/

/-- One step of a path. -/
inductive Component where
  /-- The root directory, which only an absolute path begins with. -/
  | root
  /-- The directory `.`, which only a relative path begins with. -/
  | current
  /-- The directory above. -/
  | parent
  /-- An entry of a directory. -/
  | name (bytes : Bytes)
deriving DecidableEq, Repr

/-- The root sorts before `.`, that before `..`, and that before every name. -/
def Component.rank : Component → Nat
  | .root => 0
  | .current => 1
  | .parent => 2
  | .name _ => 3

/-- The bytes of a name. -/
def Component.label : Component → Bytes
  | .name bytes => bytes
  | _ => []

instance : Ord Component := ⟨compareLex (compareOn Component.rank) (compareOn Component.label)⟩

instance : Std.TransOrd Component :=
  inferInstanceAs (Std.TransCmp (compareLex (compareOn Component.rank) (compareOn Component.label)))

/-- The stretches between separators; there is always at least one. -/
def pieces : Bytes → List Bytes
  | [] => [[]]
  | b :: rest =>
    if b = slash then [] :: pieces rest
    else match pieces rest with
      | [] => [[b]]
      | p :: ps => (b :: p) :: ps

/-- Stretches with a separator between any two. -/
def joinPieces : List Bytes → Bytes
  | [] => []
  | [p] => p
  | p :: ps => p ++ slash :: joinPieces ps

/-- The component that a stretch between separators names; nothing and `.` name none. -/
def ofPiece (piece : Bytes) : Option Component :=
  if piece = [] ∨ piece = [dot] then none
  else if piece = [dot, dot] then some .parent
  else some (.name piece)

/-- The components of a path. A `.` counts only where a relative path begins with it. -/
def components (p : Path) : List Component :=
  if p.isAbsolute then .root :: (pieces p.bytes).filterMap ofPiece
  else match pieces p.bytes with
    | [] => []
    | piece :: rest =>
      if piece = [dot] then .current :: rest.filterMap ofPiece
      else (piece :: rest).filterMap ofPiece

/-- Paths are ordered by their components, from left to right. -/
instance : Ord Path := ⟨compareOn components⟩

instance : Std.TransOrd Path := inferInstanceAs (Std.TransCmp (compareOn components))

theorem pieces_ne_nil (bs : Bytes) : pieces bs ≠ [] := by
  cases bs with
  | nil => simp [pieces]
  | cons b rest =>
    rw [pieces]
    split
    · simp
    · split <;> simp

/-- Splitting loses nothing. -/
theorem joinPieces_pieces (bs : Bytes) : joinPieces (pieces bs) = bs := by
  induction bs with
  | nil => rfl
  | cons b rest ih =>
    rw [pieces]
    split
    next h =>
      cases hp : pieces rest with
      | nil => exact absurd hp (pieces_ne_nil rest)
      | cons p ps => rw [joinPieces, ← hp, ih, h]; simp; simp
    next h =>
      cases hp : pieces rest with
      | nil => exact absurd hp (pieces_ne_nil rest)
      | cons p ps =>
        rw [hp] at ih
        cases ps with
        | nil => simp only [joinPieces] at *; rw [ih]
        | cons q qs => simp only [joinPieces, List.cons_append] at *; rw [ih]

end Path

end CompilerDriver
