import CompilerDriver.Toml.Basic
import CompilerDriver.Toml.Token

/-!
# Parsing configurations

The parser reads tokens from left to right. A statement is a header, which names the table that the statements
after it add to, or a key with its value, and it takes a line of its own. Tables between braces that are
still open are kept on a stack, innermost first.
-/

namespace CompilerDriver

namespace Toml

/-- A table between braces that is still open: what it holds so far, and the key that it is the value of. -/
structure Frame where
  entries : TomlEntries
  key : List String

/-- What the parser expects next. Dotted keys are collected last part first. -/
inductive Expectation where
  /-- A statement, or the end of the line. -/
  | statement
  /-- The end of the line, after a statement. -/
  | lineEnd
  /-- A part of a header. -/
  | headerPart (path : List String)
  /-- A dot or the end of a header. -/
  | afterHeaderPart (path : List String)
  /-- A part of a key. -/
  | keyPart (path : List String) (stack : List Frame)
  /-- A dot or the equals sign behind a key. -/
  | afterKeyPart (path : List String) (stack : List Frame)
  /-- The value of a key. -/
  | value (key : List String) (stack : List Frame)
  /-- The end of an empty list. Line ends may come before it. -/
  | listEnd (key : List String) (stack : List Frame)
  /-- The first key of a table, or its end. -/
  | firstEntry (key : List String) (stack : List Frame)
  /-- A comma or the end of a table, after a value in it. -/
  | afterEntry (frame : Frame) (stack : List Frame)

/-- The configuration as far as it has been read. -/
structure Progress where
  entries : TomlEntries
  /-- The table that statements add to. -/
  header : List String
  expectation : Expectation

/-- The part of a key that a token is. -/
def keyPart? : TomlToken → Option String
  | .word name => some name
  | .text name => some name
  | _ => none

/-- Goes on after a whole value. -/
def Progress.withValue (progress : Progress) (key : List String) (value : Toml) :
    List Frame → Option Progress
  | [] =>
    (TomlEntries.assignUnder value key progress.header progress.entries).map fun entries =>
      { progress with entries := entries, expectation := .lineEnd }
  | frame :: stack =>
    (TomlEntries.assign value key frame.entries).map fun entries =>
      { progress with expectation := .afterEntry { frame with entries := entries } stack }

/-- One token. -/
def step (progress : Progress) (token : TomlToken) : Option Progress :=
  let goOn (expectation : Expectation) : Option Progress :=
    some { progress with expectation := expectation }
  match progress.expectation, token with
  | .statement, .lineEnd => goOn .statement
  | .statement, .openBracket => goOn (.headerPart [])
  | .statement, token => (keyPart? token).bind fun part => goOn (.afterKeyPart [part] [])
  | .lineEnd, .lineEnd => goOn .statement
  | .headerPart path, token => (keyPart? token).bind fun part => goOn (.afterHeaderPart (part :: path))
  | .afterHeaderPart path, .dot => goOn (.headerPart path)
  | .afterHeaderPart path, .closeBracket =>
    (TomlEntries.openTable path.reverse progress.entries).map fun entries =>
      { entries := entries, header := path.reverse, expectation := .lineEnd }
  | .keyPart path stack, token =>
    (keyPart? token).bind fun part => goOn (.afterKeyPart (part :: path) stack)
  | .afterKeyPart path stack, .dot => goOn (.keyPart path stack)
  | .afterKeyPart path stack, .equals => goOn (.value path.reverse stack)
  | .value key stack, .text value => progress.withValue key (.text value) stack
  | .value key stack, .longText value => progress.withValue key (.text value) stack
  | .value key stack, .openBracket => goOn (.listEnd key stack)
  | .value key stack, .openBrace => goOn (.firstEntry key stack)
  | .listEnd key stack, .lineEnd => goOn (.listEnd key stack)
  | .listEnd key stack, .closeBracket => progress.withValue key .emptyList stack
  | .firstEntry key stack, .closeBrace => progress.withValue key (.table .closed []) stack
  | .firstEntry key stack, token =>
    (keyPart? token).bind fun part => goOn (.afterKeyPart [part] (⟨[], key⟩ :: stack))
  | .afterEntry frame stack, .comma => goOn (.keyPart [] (frame :: stack))
  | .afterEntry frame stack, .closeBrace =>
    progress.withValue frame.key (.table .closed frame.entries) stack
  | _, _ => none

/-- The entries of a configuration that some tokens form. -/
def ofTokens? (tokens : List TomlToken) : Option TomlEntries :=
  match tokens.foldlM step ⟨[], [], .statement⟩ with
  | some ⟨entries, _, .statement⟩ => some entries
  | some ⟨entries, _, .lineEnd⟩ => some entries
  | _ => none

/-- The byte order mark, which may stand at the very front of a text. -/
def orderMark : Char := '\uFEFF'

def dropOrderMark : List Char → List Char
  | c :: rest => if c = orderMark then rest else c :: rest
  | [] => []

/-- The entries of a configuration. -/
def ofText? (s : String) : Option TomlEntries :=
  (TomlToken.scan (TomlToken.unifyLines (dropOrderMark s.toList))).bind ofTokens?

end Toml

end CompilerDriver
