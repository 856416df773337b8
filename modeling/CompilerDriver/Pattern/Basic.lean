/-!
# Search patterns

The value of a field can be given by a pattern, that is, a regular expression. Nothing is searched here: a
pattern is known by how deep it is nested and by its parts, each with the modes that it stands under, for that
settles whether a search can be built from it.

A search goes through the bytes of a text, with a table of states that is made beforehand, and without tables of
characters. So it does not know what is a letter outside ASCII, which letters differ only in case, and where a
word ends. It must not end inside a character either, and where a pattern speaks of bytes it may not leave ASCII.
-/

namespace CompilerDriver

namespace Pattern

/-! ## Modes -/

/-- What a letter between `(?` and `)` or `:` switches. -/
inductive Flag where
  | ignoreCase
  | multiLine
  | dotMatchesLineEnd
  | swapGreed
  | unicode
  | carriageReturn
  | verbose
deriving DecidableEq, Repr

/-- The flag of a letter. -/
def Flag.ofLetter? : Char → Option Flag
  | 'i' => some .ignoreCase
  | 'm' => some .multiLine
  | 's' => some .dotMatchesLineEnd
  | 'U' => some .swapGreed
  | 'u' => some .unicode
  | 'R' => some .carriageReturn
  | 'x' => some .verbose
  | _ => none

/-- Flags that are switched on and off in one place. No flag is named twice. -/
structure Switches where
  on : List Flag := []
  off : List Flag := []
deriving DecidableEq, Repr

/-- The modes that matter to a part of a pattern. -/
structure Modes where
  ignoreCase : Bool := false
  /-- Whether the pattern speaks of characters. Otherwise it speaks of bytes. -/
  unicode : Bool := true
  /-- Whether blanks in the pattern count for nothing, nor does what stands between a `#` and the end of the line. -/
  verbose : Bool := false
deriving DecidableEq, Repr

/-- What a flag is set to, if it was `old` before. -/
def Switches.value (switches : Switches) (flag : Flag) (old : Bool) : Bool :=
  if flag ∈ switches.on then true else if flag ∈ switches.off then false else old

/-- The modes after some flags have been switched. -/
def Modes.switch (modes : Modes) (switches : Switches) : Modes where
  ignoreCase := switches.value .ignoreCase modes.ignoreCase
  unicode := switches.value .unicode modes.unicode
  verbose := switches.value .verbose modes.verbose

/-! ## Parts -/

/-- What a pattern is made of. -/
inductive Part where
  /-- A character that stands for itself; `isByte` if it is written as a byte, with two hexadecimal digits. -/
  | character (c : Char) (isByte : Bool)
  /-- A character of a set, or an end of a range of characters. -/
  | member (c : Char)
  /-- Any character. -/
  | any
  /-- The digits, blanks or word characters, or all others. -/
  | shorthand (negated : Bool)
  /-- A class of ASCII characters that a set calls by its name, or all others. -/
  | named (negated : Bool)
  /-- The complement of a set. -/
  | complement
  /-- A place where a word begins or ends, or where none does. -/
  | wordBoundary
  /-- The begin or end of the text or a line. -/
  | anchor
deriving DecidableEq, Repr

/-- Whether a search can be built from a part under some modes. -/
def Part.isUsable (modes : Modes) : Part → Bool
  | .character c isByte => if modes.unicode then !modes.ignoreCase else !isByte || c.toNat < 0x80
  | .member c => if modes.unicode then !modes.ignoreCase else c.toNat < 0x80
  | .named negated => if modes.unicode then !modes.ignoreCase else !negated
  | .shorthand negated => !modes.unicode && !negated
  | .any | .complement => modes.unicode
  | .wordBoundary | .anchor => true

end Pattern

/-- A pattern. -/
structure Pattern where
  /-- The number of sets, groups, repetitions, sequences and choices within one another, at the deepest place. -/
  depth : Nat
  /-- The parts, in the order in which they are written. -/
  parts : List (Pattern.Modes × Pattern.Part)
deriving DecidableEq, Repr

namespace Pattern

/-! ## Verdicts -/

/-- Why no search can be built from a pattern. -/
inductive Fault where
  /-- It has not the form of a pattern, is nested too deep, or has a part that cannot be used. -/
  | unusable
  /-- It asks where a word ends. -/
  | wordBoundary
deriving DecidableEq, Repr

/-- The wording of a fault. -/
def Fault.message : Fault → String
  | .unusable => "error building NFA"
  | .wordBoundary =>
    "unsupported regex feature for DFAs: cannot build DFAs for regexes with Unicode word boundaries; " ++
      "switch to ASCII word boundaries, or heuristically enable Unicode word boundaries or use a different " ++
      "regex engine"

/-- The greatest depth of a pattern. -/
def maxDepth : Nat := 250

/-- What keeps a search from being built from a pattern, if anything does. -/
def fault? (pattern : Pattern) : Option Fault :=
  if maxDepth < pattern.depth then some .unusable
  else if pattern.parts.any fun (modes, part) => !part.isUsable modes then some .unusable
  else if pattern.parts.any fun (modes, part) => modes.unicode && part = .wordBoundary then
    some .wordBoundary
  else none

end Pattern

end CompilerDriver
