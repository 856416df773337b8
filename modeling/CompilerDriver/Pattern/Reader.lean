import CompilerDriver.Pattern.Basic
import CompilerDriver.Text.Alphanumeric
import CompilerDriver.Text.Blank
import CompilerDriver.Text.Digits

/-!
# Reading patterns

The reader goes through a pattern character by character and keeps the groups and sets that are still open on
stacks, innermost first. In a few places it looks at the characters ahead.

A pattern stands between braces, in a list with commas and behind an equals sign. So it holds no closing brace, no
comma and no equals sign, and the forms that need one do not occur: an opening brace only stands for itself, and
only behind a backslash, in a set or in a comment. There are no tables of Unicode properties, so their escapes are
not known.
-/

namespace CompilerDriver.Pattern

/-! ## What has been read -/

/-- An item of a sequence. -/
structure Item where
  depth : Nat
  /-- Whether it can be repeated. Switches cannot. -/
  isRepeatable : Bool
deriving DecidableEq, Repr

/-- The depth of what stands side by side; a thing on its own is not nested by that. -/
def joined : List Nat → Nat
  | [] => 0
  | [depth] => depth
  | depths => depths.foldl max 0 + 1

/-- A group that is still open. -/
structure Group where
  /-- The items of the choice that is being read, last first. -/
  items : List Item := []
  /-- The depths of the choices before it. -/
  choices : List Nat := []
  /-- The modes of what comes next. -/
  modes : Modes := {}
deriving DecidableEq, Repr

/-- The depths of all choices of a group. -/
def Group.allChoices (group : Group) : List Nat := joined (group.items.map (·.depth)) :: group.choices

/-- The depth of what a group holds. -/
def Group.depth (group : Group) : Nat := joined group.allChoices

/-- A set that is still open. -/
structure OpenSet where
  /-- The depth of what stands before the last operator, if there is one. -/
  left : Option Nat := none
  /-- The depths of the members behind it. -/
  members : List Nat := []
deriving DecidableEq, Repr

/-- The depth of what a set holds. -/
def OpenSet.depth (set : OpenSet) : Nat :=
  match set.left with
  | none => joined set.members
  | some left => max left (joined set.members) + 1

/-- What an escape is read for. -/
inductive Purpose where
  /-- An item of a sequence. -/
  | item
  /-- A member of a set. -/
  | member
  /-- The end of a range that begins with `first`. -/
  | rangeEnd (first : Part)
deriving DecidableEq, Repr

/-- Where the reader stands. -/
inductive Place where
  /-- In front of an item. -/
  | item
  /-- Behind the sign of a repetition, to which a question mark may belong. -/
  | repetition
  /-- Behind an opening parenthesis. -/
  | groupStart
  /-- Behind `(?`. -/
  | groupMark
  /-- Behind `(?P`. -/
  | nameMark
  /-- In the name of a group, of which some characters have been read, last first. -/
  | groupName (read : List Char)
  /-- Between flags; `isOff` behind a minus sign, and `isOpen` right behind it. -/
  | flags (switches : Switches) (isOff isOpen : Bool)
  /-- Behind a backslash. -/
  | escape (purpose : Purpose)
  /-- In front of the last `left` hexadecimal digits of a character; those before make `value`. -/
  | digits (purpose : Purpose) (isByte : Bool) (left value : Nat)
  /-- Behind the bracket that opens a set. -/
  | setStart
  /-- There, or behind hyphens and the sign for the complement there. -/
  | setFront
  /-- In front of a member of a set. -/
  | member
  /-- Behind a member, which may begin a range. -/
  | behindMember (part : Part)
  /-- In front of the end of a range. -/
  | rangeEnd (first : Part)
  /-- In front of the second character of an operator. -/
  | operator
  /-- In the name of a class. -/
  | className
deriving DecidableEq, Repr

/-- Whether blanks and comments may stand in a place. -/
def Place.admitsGaps : Place → Bool
  | .item | .groupStart | .digits .. | .setStart | .setFront | .member | .behindMember _
  | .rangeEnd _ => true
  | _ => false

/-- A pattern as far as it has been read. -/
structure Reader where
  place : Place := .item
  isComment : Bool := false
  /-- The innermost group; the whole pattern counts as one. -/
  group : Group := {}
  outerGroups : List Group := []
  sets : List OpenSet := []
  /-- The names of groups. -/
  names : List (List Char) := []
  /-- The parts, last first. -/
  parts : List (Modes × Part) := []

namespace Reader

/-! ## Steps -/

/-- Goes on in another place. -/
def goTo (reader : Reader) (place : Place) : Reader := { reader with place := place }

/-- Notes a part. -/
def note (reader : Reader) (part : Part) : Reader :=
  { reader with parts := (reader.group.modes, part) :: reader.parts }

/-- Adds an item to the innermost group. -/
def addItem (reader : Reader) (depth : Nat) (isRepeatable : Bool) : Reader :=
  { reader with
    place := .item
    group := { reader.group with items := ⟨depth, isRepeatable⟩ :: reader.group.items } }

/-- Adds a member to the innermost set. -/
def addMember (reader : Reader) (depth : Nat) : Option Reader :=
  match reader.sets with
  | [] => none
  | set :: sets =>
    some { reader with
      place := .member
      sets := { set with members := depth :: set.members } :: sets }

/-- Adds a part as an item. -/
def addPart (reader : Reader) (part : Part) : Reader := (reader.note part).addItem 0 true

/-- Adds a character to the innermost set. -/
def addCharacter (reader : Reader) (c : Char) : Option Reader := (reader.note (.member c)).addMember 0

/-- Adds the member that a part is. -/
def addSetPart (reader : Reader) : Part → Option Reader
  | .character c _ => reader.addCharacter c
  | .shorthand negated => (reader.note (.shorthand negated)).addMember 0
  | _ => none

/-- Adds the range between two parts. Only characters have others between them. -/
def addRange (reader : Reader) : Part → Part → Option Reader
  | .character first _, .character last _ =>
    if first ≤ last then ((reader.note (.member first)).note (.member last)).addMember 0 else none
  | _, _ => none

/-- Uses what an escape stands for. -/
def use (reader : Reader) (purpose : Purpose) (part : Part) : Option Reader :=
  match purpose with
  | .item => some (reader.addPart part)
  | .member => some (reader.goTo (.behindMember part))
  | .rangeEnd first => reader.addRange first part

/-! ### Groups -/

/-- Opens a group. -/
def openGroup (reader : Reader) (switches : Switches) : Reader :=
  { reader with
    place := .item
    group := { modes := reader.group.modes.switch switches }
    outerGroups := reader.group :: reader.outerGroups }

/-- Closes the innermost group. What it switched is switched back. -/
def closeGroup (reader : Reader) : Option Reader :=
  match reader.outerGroups with
  | [] => none
  | outer :: outerGroups =>
    let depth := reader.group.depth + 1
    some ({ reader with group := outer, outerGroups := outerGroups }.addItem depth true)

/-- Begins another choice in the innermost group. -/
def nextChoice (reader : Reader) : Reader :=
  { reader with
    place := .item
    group := { reader.group with items := [], choices := reader.group.allChoices } }

/-- Repeats the last item. -/
def repeatItem (reader : Reader) : Option Reader :=
  match reader.group.items with
  | [] => none
  | item :: items =>
    if item.isRepeatable then
      some (({ reader with group := { reader.group with items := items } }.addItem
        (item.depth + 1) true).goTo .repetition)
    else none

/-- Switches flags for the rest of the innermost group. -/
def switch (reader : Reader) (switches : Switches) : Reader :=
  { reader with group := { reader.group with modes := reader.group.modes.switch switches } }.addItem 0
    false

/-- Reads on between flags. The same flag may not come twice, a minus sign may come once and not at the end, and
without a colon there must be a flag. -/
def readFlag (reader : Reader) (switches : Switches) (isOff isOpen : Bool) (c : Char) :
    Option Reader :=
  if c = ':' then if isOpen then none else some (reader.openGroup switches)
  else if c = ')' then if isOpen || switches = {} then none else some (reader.switch switches)
  else if c = '-' then if isOff then none else some (reader.goTo (.flags switches true true))
  else do
    let flag ← Flag.ofLetter? c
    if flag ∈ switches.on ++ switches.off then none
    else if isOff then some (reader.goTo (.flags { switches with off := flag :: switches.off } true false))
    else some (reader.goTo (.flags { switches with on := flag :: switches.on } false false))

/-- Whether a character can go on a name of a group of which some characters have been read. -/
def isNameCharacter (read : List Char) (c : Char) : Bool :=
  if read.isEmpty then c == '_' || Text.isAlphabetic c
  else c == '_' || c == '.' || c == '[' || c == ']' || Text.isAlphanumeric c

/-- Reads on in the name of a group. No two groups may have the same one. -/
def readName (reader : Reader) (read : List Char) (c : Char) : Option Reader :=
  if c = '>' then
    if read.isEmpty || reader.names.contains read then none
    else some ({ reader with names := read :: reader.names }.openGroup {})
  else if isNameCharacter read c then some (reader.goTo (.groupName (c :: read)))
  else none

/-! ### Escapes -/

/-- The character that a letter behind a backslash stands for. -/
def namedCharacter? : Char → Option Char
  | 'a' => some '\x07'
  | 'f' => some '\x0c'
  | 'n' => some '\n'
  | 'r' => some '\r'
  | 't' => some '\t'
  | 'v' => some '\x0b'
  | _ => none

/-- The part that a character behind a backslash stands for. ASCII characters that have no meaning there stand for
themselves, unless they are letters or digits. -/
def escaped? (c : Char) : Option Part :=
  match namedCharacter? c with
  | some named => some (.character named false)
  | none =>
    if ['d', 's', 'w'].contains c then some (.shorthand false)
    else if ['D', 'S', 'W'].contains c then some (.shorthand true)
    else if ['b', 'B', '<', '>'].contains c then some .wordBoundary
    else if ['A', 'z'].contains c then some .anchor
    else if c.toNat < 0x80 && !c.isAlphanum then some (.character c false)
    else none

/-- The number of hexadecimal digits behind a letter. -/
def digitCount? : Char → Option Nat
  | 'x' => some 2
  | 'u' => some 4
  | 'U' => some 8
  | _ => none

/-- Reads the character behind a backslash. -/
def readEscape (reader : Reader) (purpose : Purpose) (c : Char) : Option Reader :=
  match digitCount? c with
  | some count => some (reader.goTo (.digits purpose (c = 'x') count 0))
  | none => (escaped? c).bind (reader.use purpose)

/-- Reads one of the last `left` hexadecimal digits of a character. -/
def readDigit (reader : Reader) (purpose : Purpose) (isByte : Bool) (left value : Nat) (c : Char) :
    Option Reader := do
  let value := value * 16 + (← Digits.hexValue? c)
  if 1 < left then some (reader.goTo (.digits purpose isByte (left - 1) value))
  else if value.isValidChar then reader.use purpose (.character (Char.ofNat value) isByte)
  else none

/-! ### Sets -/

/-- The names of classes. -/
def classNames : List String :=
  ["alnum", "alpha", "ascii", "blank", "cntrl", "digit", "graph", "lower", "print", "punct", "space",
    "upper", "word", "xdigit"]

/-- Whether a text begins with the name of a class and the signs that end it. -/
def beginsWithClassName (cs : List Char) : Bool :=
  classNames.contains (String.ofList (cs.takeWhile (· != ':'))) &&
    (cs.dropWhile (· != ':')).take 2 == [':', ']']

/-- Whether what stands behind a bracket calls a class by its name, and then whether it means all others. -/
def namedClass? : List Char → Option Bool
  | ':' :: '^' :: cs => if beginsWithClassName cs then some true else none
  | ':' :: cs => if beginsWithClassName cs then some false else none
  | _ => none

/-- Opens a set. -/
def openSet (reader : Reader) : Reader :=
  { reader with place := .setStart, sets := {} :: reader.sets }

/-- Closes the innermost set. -/
def closeSet (reader : Reader) : Option Reader :=
  match reader.sets with
  | [] => none
  | [set] => some ({ reader with sets := [] }.addItem (set.depth + 1) true)
  | set :: sets => { reader with sets := sets }.addMember (set.depth + 1)

/-- Goes on behind an operator. -/
def operate (reader : Reader) : Option Reader :=
  match reader.sets with
  | [] => none
  | set :: sets =>
    some { reader with place := .operator, sets := { left := some set.depth } :: sets }

/-- The next character that counts. A comment is not skipped here, only the sign that begins it. -/
def nextSolid? (reader : Reader) (rest : List Char) : Option Char :=
  if reader.group.modes.verbose then
    match Text.skipBlanks rest with
    | '#' :: rest => (Text.skipBlanks rest).head?
    | rest => rest.head?
  else rest.head?

/-- Reads a character in front of a member, of which `rest` follows. -/
def readMember (reader : Reader) (c : Char) (rest : List Char) : Option Reader :=
  if c = '[' then
    match namedClass? rest with
    | some negated => ((reader.note (.named negated)).addMember 0).map (·.goTo .className)
    | none => some reader.openSet
  else if c = ']' then reader.closeSet
  else if ['&', '-', '~'].contains c && rest.head? == some c then reader.operate
  else if c = '\\' then some (reader.goTo (.escape .member))
  else some (reader.goTo (.behindMember (.character c false)))

/-- Reads a character at the front of a set. Hyphens stand for themselves there, and so does a bracket. -/
def readFront (reader : Reader) (c : Char) (rest : List Char) : Option Reader :=
  if c = '-' then (reader.addCharacter c).map (·.goTo .setFront)
  else if c = ']' && reader.sets.head?.any (·.members.isEmpty) then reader.addCharacter c
  else reader.readMember c rest

/-- Reads a character behind a member. A hyphen begins the end of a range, unless another hyphen or the end of the
set comes next. -/
def readBehind (reader : Reader) (part : Part) (c : Char) (rest : List Char) : Option Reader :=
  let next := reader.nextSolid? rest
  if c = '-' && next != some ']' && next != some '-' then some (reader.goTo (.rangeEnd part))
  else (reader.addSetPart part).bind (·.readMember c rest)

/-! ### Characters -/

/-- Reads a character in front of an item. -/
def readItem (reader : Reader) (c : Char) : Option Reader :=
  match c with
  | '(' => some (reader.goTo .groupStart)
  | ')' => reader.closeGroup
  | '|' => some reader.nextChoice
  | '[' => some reader.openSet
  | '?' | '*' | '+' => reader.repeatItem
  | '\x7b' => none
  | '\\' => some (reader.goTo (.escape .item))
  | '.' => some (reader.addPart .any)
  | '^' | '$' => some (reader.addPart .anchor)
  | c => some (reader.addPart (.character c false))

/-- Reads a character in its place; `rest` follows. -/
def readCharacter (reader : Reader) (c : Char) (rest : List Char) : Option Reader :=
  match reader.place with
  | .item | .repetition => reader.readItem c
  | .groupStart =>
    if c = '?' then some (reader.goTo .groupMark) else (reader.openGroup {}).readItem c
  | .groupMark =>
    if c = 'P' then some (reader.goTo .nameMark)
    else if c = '<' then some (reader.goTo (.groupName []))
    else reader.readFlag {} false false c
  | .nameMark => if c = '<' then some (reader.goTo (.groupName [])) else none
  | .groupName read => reader.readName read c
  | .flags switches isOff isOpen => reader.readFlag switches isOff isOpen c
  | .escape purpose => reader.readEscape purpose c
  | .digits purpose isByte left value => reader.readDigit purpose isByte left value c
  | .setStart =>
    if c = '^' then some ((reader.note .complement).goTo .setFront) else reader.readFront c rest
  | .setFront => reader.readFront c rest
  | .member => reader.readMember c rest
  | .behindMember part => reader.readBehind part c rest
  | .rangeEnd first =>
    if c = '\\' then some (reader.goTo (.escape (.rangeEnd first)))
    else reader.addRange first (.character c false)
  | .operator => some (reader.goTo .member)
  | .className => some (if c = ']' then reader.goTo .member else reader)

/-- Reads a character, of which `rest` follows. -/
def step (reader : Reader) (c : Char) (rest : List Char) : Option Reader :=
  if reader.isComment then some { reader with isComment := c != '\n' }
  else if reader.place = .repetition && c = '?' then some (reader.goTo .item)
  else
    let reader := if reader.place = .repetition then reader.goTo .item else reader
    if reader.group.modes.verbose && reader.place.admitsGaps && Text.isBlank c then some reader
    else if reader.group.modes.verbose && reader.place.admitsGaps && c = '#' then
      some { reader with isComment := true }
    else reader.readCharacter c rest

/-- Reads some characters. -/
def run (reader : Reader) : List Char → Option Reader
  | [] => some reader
  | c :: rest => (reader.step c rest).bind (·.run rest)

/-- The pattern, if all groups and sets are closed. -/
def finish? (reader : Reader) : Option Pattern :=
  if (reader.place = .item ∨ reader.place = .repetition) ∧ reader.outerGroups = [] then
    some ⟨reader.group.depth, reader.parts.reverse⟩
  else none

end Reader

/-- The pattern that a text is, if it has the form of one. -/
def ofChars? (cs : List Char) : Option Pattern := (({} : Reader).run cs).bind Reader.finish?

/-- What keeps a search from being built from a text, if anything does. -/
def faultOf? (cs : List Char) : Option Fault :=
  match ofChars? cs with
  | some pattern => pattern.fault?
  | none => some .unusable

end CompilerDriver.Pattern
