import CompilerDriver.Json.Token

/-!
# Printing JSON values

One printer for both layouts that the driver writes: everything on one line, or an item a line with two
blanks of indentation for each level. An empty array or object is written without a break inside.

`tokens` lists the tokens of a value in the order in which any layout writes them.
-/

namespace CompilerDriver

namespace Json

open Digits

/-! ## Strings and numbers -/

/-- A character inside a string literal. Control characters are escaped, by a letter where they have one. -/
def escape (c : Char) : List Char :=
  if c = '"' then ['\\', '"']
  else if c = '\\' then ['\\', '\\']
  else if c = '\x08' then ['\\', 'b']
  else if c = '\x0c' then ['\\', 'f']
  else if c = '\n' then ['\\', 'n']
  else if c = '\r' then ['\\', 'r']
  else if c = '\t' then ['\\', 't']
  else if c.toNat < 0x20 then
    ['\\', 'u', '0', '0', hexDigit (c.toNat / 16), hexDigit (c.toNat % 16)]
  else [c]

/-- A string literal. What is no text is written as half a surrogate pair, which is none either. -/
def literal : JsonText → List Char
  | some s => '"' :: s.toList.flatMap escape ++ ['"']
  | none => ['"', '\\', 'u', 'd', '8', '0', '0', '"']

/-- A number. A decimal is always written with an exponent, and with a point if digits stand behind it. -/
def numeral : JsonNumber → List Char
  | .integer negative magnitude => (if negative then ['-'] else []) ++ decimal magnitude
  | .decimal negative whole fraction exponent =>
    (if negative then ['-'] else []) ++ decimal whole ++
      (if fraction = [] then [] else '.' :: fraction) ++ 'e' :: signed exponent

/-! ## Layouts -/

/-- How the tokens of a value are set out. -/
inductive Layout where
  /-- On one line, without blanks. -/
  | compact
  /-- A line for each item and member. -/
  | indented
deriving DecidableEq, Repr

/-- What stands in front of an item on level `depth`, and in front of the end of the level above. -/
def Layout.gap (layout : Layout) (depth : Nat) : List Char :=
  match layout with
  | .compact => []
  | .indented => '\n' :: List.replicate (2 * depth) ' '

/-- What stands between the name and the value of a member. -/
def Layout.colon : Layout → List Char
  | .compact => [':']
  | .indented => [':', ' ']

/-- The end of an array or object on level `depth`, which stands on a line of its own unless nothing
was written inside. -/
def Layout.finish (layout : Layout) (depth : Nat) (isEmpty : Bool) (mark : Char) : List Char :=
  if isEmpty then [mark] else layout.gap depth ++ [mark]

mutual

/-- A value on level `depth`. -/
def write (layout : Layout) (depth : Nat) : Json → List Char
  | .null => ['n', 'u', 'l', 'l']
  | .bool true => ['t', 'r', 'u', 'e']
  | .bool false => ['f', 'a', 'l', 's', 'e']
  | .number n => numeral n
  | .string s => literal s
  | .array items =>
    '[' :: writeItems layout (depth + 1) [] items ++ layout.finish depth items.isEmpty ']'
  | .object members =>
    '\x7b' :: writeMembers layout (depth + 1) [] members ++
      layout.finish depth members.isEmpty '\x7d'

/-- Items on level `depth`; `before` stands in front of the first of them. -/
def writeItems (layout : Layout) (depth : Nat) (before : List Char) : List Json → List Char
  | [] => []
  | item :: rest =>
    before ++ layout.gap depth ++ write layout depth item ++ writeItems layout depth [','] rest

/-- Members on level `depth`; `before` stands in front of the first of them. -/
def writeMembers (layout : Layout) (depth : Nat) (before : List Char) :
    List (JsonText × Json) → List Char
  | [] => []
  | (name, value) :: rest =>
    before ++ layout.gap depth ++ literal name ++ layout.colon ++ write layout depth value ++
      writeMembers layout depth [','] rest

end

/-- A value on one line. -/
def compact (value : Json) : String := String.ofList (write .compact 0 value)

/-- A value with an item a line. -/
def pretty (value : Json) : String := String.ofList (write .indented 0 value)

/-! ## Tokens -/

mutual

/-- The tokens of a value. -/
def tokens : Json → List JsonToken
  | .null => [.null]
  | .bool b => [.bool b]
  | .number n => [.number n]
  | .string s => [.string s]
  | .array items => .arrayStart :: tokensOfItems [] items ++ [.arrayEnd]
  | .object members => .objectStart :: tokensOfMembers [] members ++ [.objectEnd]

/-- The tokens of some items; `before` stands in front of the first of them. -/
def tokensOfItems (before : List JsonToken) : List Json → List JsonToken
  | [] => []
  | item :: rest => before ++ tokens item ++ tokensOfItems [.comma] rest

/-- The tokens of some members; `before` stands in front of the first of them. -/
def tokensOfMembers (before : List JsonToken) : List (JsonText × Json) → List JsonToken
  | [] => []
  | (name, value) :: rest =>
    before ++ .string name :: .colon :: tokens value ++ tokensOfMembers [.comma] rest

end

end Json

end CompilerDriver
