import CompilerDriver.Path.Names

/-!
# Personalities

One driver answers under several names, and the name it is called by decides what it does when the
options say nothing. The first argument can choose another personality.
-/

namespace CompilerDriver

/-- The part in which the driver was called. -/
inductive Personality where
  /-- `swift`: runs what it is given, or asks for more. -/
  | interactive
  /-- `swiftc`: compiles. -/
  | batch
  | frontend
  | moduleWrap
  | autolinkExtract
  | indent
deriving DecidableEq, Repr

/-- Why the personality of an invocation is not known. -/
inductive PersonalityError where
  /-- The name given for the personality is none. -/
  | unknownName (name : String)
  /-- Not even the executable is named. -/
  | emptyInvocation
deriving DecidableEq, Repr

/-- The wording of an error. -/
def PersonalityError.message : PersonalityError → String
  | .unknownName name => s!"invalid value '{name}' in '--driver-mode='"
  | .emptyInvocation => "no executable name in argv"

namespace Personality

/-- All personalities. -/
def all : List Personality :=
  [.interactive, .batch, .frontend, .moduleWrap, .autolinkExtract, .indent]

def name : Personality → String
  | .interactive => "interactive"
  | .batch => "batch"
  | .frontend => "frontend"
  | .moduleWrap => "modulewrap"
  | .autolinkExtract => "autolink-extract"
  | .indent => "indent"

def isInteractive (p : Personality) : Bool := p == .interactive

/-- The personality that an executable is named for. -/
def ofExecutable? (executable : String) : Option Personality :=
  if executable = "swift" then some .interactive
  else if executable = "swiftc" then some .batch
  else if executable = "swift-frontend" then some .frontend
  else if executable = "swift-autolink-extract" then some .autolinkExtract
  else if executable = "swift-indent" then some .indent
  else none

/-- The personality that a name stands for: that of an executable, or its own. -/
def ofName (name : String) : Except PersonalityError Personality :=
  match ofExecutable? name with
  | some p => .ok p
  | none =>
    match all.find? fun p => p.name == name with
    | some p => .ok p
    | none => .error (.unknownName name)

/-- What a first argument says about the personality: nothing, or its name. -/
inductive Selector where
  | named (name : String)
  | direct (p : Personality)
deriving DecidableEq, Repr

/-- The words with which an argument begins that names a personality. -/
def selectorLead : String := "--driver-mode="

/-- The choice of personality that an argument makes. -/
def selector? (argument : String) : Option Selector :=
  if selectorLead.toList.isPrefixOf argument.toList then
    some (.named (String.ofList (argument.toList.drop selectorLead.toList.length)))
  else if argument = "-frontend" then some (.direct .frontend)
  else if argument = "-modulewrap" then some (.direct .moduleWrap)
  else none

/-- The personality that the path of the executable stands for; the batch compiler unless its stem says
otherwise. -/
def ofExecutablePath (executable : String) : Personality :=
  let path := Path.ofString executable
  let stem := match path.stem? with
    | some stem => (Path.mk stem).text?.getD executable
    | none => executable
  (ofExecutable? stem).getD .batch

/-- The personality of an invocation, and the arguments left to be read. -/
def ofInvocation : List String → Except PersonalityError (Personality × List String)
  | [] => .error .emptyInvocation
  | executable :: arguments =>
    match arguments with
    | [] => .ok (ofExecutablePath executable, [])
    | first :: rest =>
      match selector? first with
      | some (.named name) => do return (← ofName name, rest)
      | some (.direct p) => .ok (p, rest)
      | none => .ok (ofExecutablePath executable, first :: rest)

/-- A personality's own name stands for it. -/
theorem ofName_name (p : Personality) : ofName p.name = .ok p := by
  cases p <;> rfl

end Personality

end CompilerDriver
