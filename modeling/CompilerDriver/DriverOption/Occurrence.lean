import CompilerDriver.DriverOption.Table

/-!
# Options as given

The driver never looks at a command line but at the options it was given, in their order and each with
its argument. The questions that it asks of them are here. Each comes down to one of three: is an option
there, which of a family is the last, and what arguments stand with it.
-/

namespace CompilerDriver

/-- An option as it was given once. -/
structure Occurrence where
  option : DriverOption
  argument : Option String
deriving DecidableEq, Repr

namespace Occurrence

/-- An option given without an argument. -/
def flag (o : DriverOption) : Occurrence := ⟨o, none⟩

/-- An option given with an argument. -/
def withArgument (o : DriverOption) (argument : String) : Occurrence := ⟨o, some argument⟩

/-- A positional input. -/
def input (path : String) : Occurrence := ⟨.input, some path⟩

end Occurrence

/-- The options that an invocation was given, in their order. -/
abbrev Occurrences := List Occurrence

namespace Occurrences

/-- Whether an option was given. -/
def contains (given : Occurrences) (o : DriverOption) : Bool :=
  given.any fun x => x.option == o

/-- Whether one of some options was given. -/
def containsAny (given : Occurrences) (options : List DriverOption) : Bool :=
  given.any fun x => options.contains x.option

/-- The last option of a family. -/
def lastInGroup? (given : Occurrences) (group : OptionGroup) : Option Occurrence :=
  given.reverse.find? fun x => x.option.group? == some group

/-- Whether a choice between two options is on: the last of them that was given says so. -/
def isOn (given : Occurrences) (positive negative : DriverOption) (default : Bool) : Bool :=
  match given.reverse.find? fun x => x.option == positive || x.option == negative with
  | some x => x.option == positive
  | none => default

/-- The argument with which an option was given last. -/
def lastArgument? (given : Occurrences) (o : DriverOption) : Option String :=
  (given.reverse.find? fun x => x.option == o).bind (·.argument)

/-- The arguments with which an option was given, in their order. -/
def allArguments (given : Occurrences) (o : DriverOption) : List String :=
  given.filterMap fun x => if x.option = o then x.argument else none

/-- The positional inputs. -/
def inputs (given : Occurrences) : List String := given.allArguments .input

/-! ## Facts about the last one -/

/-- The last option of a family belongs to it. -/
theorem group?_of_lastInGroup? {given : Occurrences} {group : OptionGroup} {x : Occurrence}
    (h : given.lastInGroup? group = some x) : x.option.group? = some group := by
  simpa using List.find?_some h

/-- A family has a last option as soon as it has one. -/
theorem lastInGroup?_eq_none_iff {given : Occurrences} {group : OptionGroup} :
    given.lastInGroup? group = none ↔ ∀ x ∈ given, x.option.group? ≠ some group := by
  simp [lastInGroup?]

end Occurrences

end CompilerDriver
