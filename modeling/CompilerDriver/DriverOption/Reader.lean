import CompilerDriver.DriverOption.Occurrence

/-!
# Reading command lines

The words of a command line are taken apart from left to right. What a word says by itself, `Word.of`
decides; only two kinds of words reach beyond themselves: an option that awaits its argument takes the
next word, whatever it is, and the separator `--` makes inputs of all words behind it.

`render` writes options back as words, in their canonical spelling.
-/

namespace CompilerDriver

/-- What is wrong with a command line. -/
inductive ReadError where
  /-- A word begins like an option and is none. -/
  | unknownOption (word : String)
  /-- The command line ends where an argument is due. -/
  | missingArgument (word : String)
  /-- A flag is followed by an equals sign. -/
  | unexpectedArgument (spelling : String)
deriving DecidableEq, Repr

/-- The wording of an error. -/
def ReadError.message : ReadError → String
  | .unknownOption word => s!"unknown option '{word}'"
  | .missingArgument word => s!"missing argument value for '{word}'"
  | .unexpectedArgument spelling => s!"option '{spelling}' does not take an argument"

/-- What a word says by itself. -/
inductive Word where
  /-- It is an input. -/
  | input
  /-- It is `--`: only inputs follow. -/
  | separator
  /-- It is an option, with its argument if it has one. -/
  | whole (occurrence : Occurrence)
  /-- It is an option whose argument is the next word. -/
  | awaiting (option : DriverOption)
  /-- It is an option that is given an argument and takes none. -/
  | overfull (spelling : String)
  /-- It is none of these. -/
  | unknown
deriving DecidableEq, Repr

namespace Word

/-- A word before and after its first equals sign. -/
def splitAtEquals? (word : String) : Option (String × String) :=
  match word.toList.dropWhile (· != '=') with
  | [] => none
  | _ :: value => some (String.ofList (word.toList.takeWhile (· != '=')), String.ofList value)

/-- The option whose argument is glued to it in the word. -/
def glued? (word : String) : Option Occurrence := do
  let option ← DriverOption.gluedIn? word
  let argument ← option.gluedArgument? word
  return .withArgument option argument

/-- What a word says by itself: as a whole, as option and argument around an equals sign, or as an option
with its argument glued to it; the first of these that fits. A word that does not begin with a dash is an
input, and so is a single dash. -/
def of (word : String) : Word :=
  if word = "-" ∨ word.toList.head? ≠ some '-' then .input
  else if word = "--" then .separator
  else match DriverOption.ofSpelling? word with
    | some option => if option.takesArgument then .awaiting option else .whole (.flag option)
    | none =>
      let joined := match glued? word with
        | some occurrence => .whole occurrence
        | none => .unknown
      match splitAtEquals? word with
      | none => joined
      | some (name, value) =>
        match DriverOption.ofSpelling? name with
        | none => joined
        | some option =>
          if option.takesArgument then .whole (.withArgument option value) else .overfull name

end Word

namespace Occurrences

/-- The options that some words give. -/
def read : List String → Except ReadError Occurrences
  | [] => .ok []
  | word :: rest =>
    match Word.of word with
    | .input => do return .input word :: (← read rest)
    | .separator => .ok (rest.map .input)
    | .whole occurrence => do return occurrence :: (← read rest)
    | .awaiting option =>
      match rest with
      | [] => .error (.missingArgument word)
      | argument :: rest => do return .withArgument option argument :: (← read rest)
    | .overfull spelling => .error (.unexpectedArgument spelling)
    | .unknown => .error (.unknownOption word)

/-! ## Writing -/

/-- Whether an input can only stand behind the separator. -/
def needsSeparator (path : String) : Bool := path != "-" && path.toList.head? == some '-'

/-- The words that give some options; `onlyInputs` says that the separator has been written. -/
def renderFrom (onlyInputs : Bool) : Occurrences → List String
  | [] => []
  | ⟨option, argument⟩ :: rest =>
    if option.isPositional then
      let path := argument.getD ""
      if !onlyInputs && needsSeparator path then "--" :: path :: renderFrom true rest
      else path :: renderFrom onlyInputs rest
    else option.spelling :: (argument.toList ++ renderFrom onlyInputs rest)

/-- The words that give some options, in canonical spelling, with the separator before the first input
that needs it. -/
def render (given : Occurrences) : List String := renderFrom false given

end Occurrences

end CompilerDriver
