/-!
# Blank characters

The characters with the Unicode property `White_Space`. They separate the parts of a written instant,
and a setting that consists of nothing else counts as empty.
-/

namespace CompilerDriver.Text

/-- The blank characters outside Latin-1 and the two blank ones in its upper half. -/
def wideBlanks : List Char :=
  ['\u0085', '\u00a0', '\u1680', '\u2000', '\u2001', '\u2002', '\u2003', '\u2004', '\u2005',
    '\u2006', '\u2007', '\u2008', '\u2009', '\u200a', '\u2028', '\u2029', '\u202f', '\u205f',
    '\u3000']

/-- Whether a character is blank: tab, line feed, vertical tab, form feed, carriage return, space, or
one of `wideBlanks`. -/
def isBlank (c : Char) : Bool :=
  (9 ≤ c.toNat && c.toNat ≤ 13) || c == ' ' || wideBlanks.contains c

/-- The text after its leading blanks. -/
def skipBlanks (cs : List Char) : List Char := cs.dropWhile isBlank

/-- Whether a text holds nothing but blanks. -/
def isBlankText (s : String) : Bool := s.toList.all isBlank

example : wideBlanks.length = 19 := rfl

end CompilerDriver.Text
