import CompilerDriver.Json.Token

/-!
# Parsing JSON documents

The parser reads tokens from left to right and keeps the arrays and objects that are still open on a
stack, innermost first. Nesting is limited by nothing but the text. A document is one value; nothing but
blanks may follow it.
-/

namespace CompilerDriver

namespace Json

/-- An array or object that is still open. What it holds so far is listed last first. -/
inductive Frame where
  | array (items : List Json)
  /-- An object whose member `name` is being read. -/
  | object (members : List (JsonText × Json)) (name : JsonText)

/-- What the parser expects next, under the open arrays and objects of `stack`. -/
inductive Expectation where
  /-- A value. -/
  | value (stack : List Frame)
  /-- The first item of an array, or its end. -/
  | firstItem (stack : List Frame)
  /-- The first member of an object, or its end. -/
  | firstMember (stack : List Frame)
  /-- A further member, after a comma. -/
  | member (members : List (JsonText × Json)) (stack : List Frame)
  /-- The colon after the name of a member. -/
  | colon (members : List (JsonText × Json)) (name : JsonText) (stack : List Frame)
  /-- A comma or an end, after a whole value. -/
  | after (value : Json) (stack : List Frame)

/-- One token where a value is expected. -/
def stepValue (stack : List Frame) : JsonToken → Option Expectation
  | .null => some (.after .null stack)
  | .bool b => some (.after (.bool b) stack)
  | .number n => some (.after (.number n) stack)
  | .string s => some (.after (.string s) stack)
  | .arrayStart => some (.firstItem stack)
  | .objectStart => some (.firstMember stack)
  | _ => none

/-- One token. -/
def step : Expectation → JsonToken → Option Expectation
  | .value stack, token => stepValue stack token
  | .firstItem stack, .arrayEnd => some (.after (.array []) stack)
  | .firstItem stack, token => stepValue (.array [] :: stack) token
  | .firstMember stack, .objectEnd => some (.after (.object []) stack)
  | .firstMember stack, .string name => some (.colon [] name stack)
  | .member members stack, .string name => some (.colon members name stack)
  | .colon members name stack, .colon => some (.value (.object members name :: stack))
  | .after value (.array items :: stack), .comma => some (.value (.array (value :: items) :: stack))
  | .after value (.array items :: stack), .arrayEnd =>
    some (.after (.array (value :: items).reverse) stack)
  | .after value (.object members name :: stack), .comma =>
    some (.member ((name, value) :: members) stack)
  | .after value (.object members name :: stack), .objectEnd =>
    some (.after (.object ((name, value) :: members).reverse) stack)
  | _, _ => none

/-- The value of a list of tokens, if they form one. -/
def ofTokens? (tokens : List JsonToken) : Option Json :=
  match tokens.foldlM step (.value []) with
  | some (.after value []) => some value
  | _ => none

/-- The value of a document. -/
def ofChars? (cs : List Char) : Option Json := (JsonToken.scan cs).bind ofTokens?

/-- The value of a document. -/
def ofText? (s : String) : Option Json := ofChars? s.toList

end Json

end CompilerDriver
