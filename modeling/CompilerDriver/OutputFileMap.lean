import CompilerDriver.FileType

/-!
# Output file maps

Where the outputs of a build are to be written: for each input, a path for each type of output. The
entry of the empty path holds the outputs of the module as a whole.
-/

namespace CompilerDriver

/-- The declared outputs of each input. -/
abbrev OutputFileMap := OrderedMap Path (OrderedMap FileType Path)

namespace OutputFileMap

/-- The declared output of a type for an input. -/
def output? (map : OutputFileMap) (input : Path) (type : FileType) : Option Path :=
  (map.get? input).bind fun outputs => outputs.get? type

/-- The declared output of a type for the module as a whole. -/
def moduleOutput? (map : OutputFileMap) (type : FileType) : Option Path :=
  map.output? .empty type

/-- Declares an output. An input that is there already keeps its spelling. -/
def declare (map : OutputFileMap) (input : Path) (type : FileType) (output : Path) : OutputFileMap :=
  map.insert input (((map.get? input).getD .empty).insert type output)

/-- A declared output is found, and hides nothing else. -/
theorem output?_declare (map : OutputFileMap) (input : Path) (type : FileType) (output : Path)
    (i : Path) (t : FileType) :
    (map.declare input type output).output? i t =
      if compare i input = .eq ∧ compare t type = .eq then some output else map.output? i t := by
  unfold output? declare
  rw [OrderedMap.get?_insert]
  by_cases hi : compare i input = .eq
  · have hget : map.get? i = map.get? input := OrderedMap.get?_congr hi
    rw [if_pos hi, Option.bind_some, OrderedMap.get?_insert, hget]
    by_cases ht : compare t type = .eq
    · simp [hi, ht]
    · cases map.get? input <;> simp [ht]
  · simp [hi]

end OutputFileMap

end CompilerDriver
