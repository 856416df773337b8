/-!
# JSON values

The values that a JSON document stands for. Members of an object keep their order and may repeat a
name: which of these documents mean something is for their readers to say.
-/

namespace CompilerDriver

/-- A string of a document. A literal can spell half of a surrogate pair with `\u` escapes; such a
literal is well formed, but no text, and counts as `none`. -/
abbrev JsonText := Option String

/-- A number of a document. Integers and decimals are kept apart: `1` and `1.0` are different values. -/
inductive JsonNumber where
  /-- A number without fraction and exponent; there is a negative zero. -/
  | integer (negative : Bool) (magnitude : Nat)
  /-- The number `whole.fraction * 10 ^ exponent`, with its sign; `fraction` are the digits behind the point. -/
  | decimal (negative : Bool) (whole : Nat) (fraction : List Char) (exponent : Int)
deriving DecidableEq, Repr

/-- A JSON value. -/
inductive Json where
  | null
  | bool (value : Bool)
  | number (value : JsonNumber)
  | string (value : JsonText)
  | array (items : List Json)
  | object (members : List (JsonText × Json))
deriving Repr

namespace Json

instance : Inhabited Json := ⟨.null⟩

/-- The JSON string of a text. -/
def text (s : String) : Json := .string (some s)

/-- The JSON number of a whole number. -/
def int (n : Int) : Json := .number (.integer (n < 0) n.natAbs)

/-- The JSON number of a natural number. -/
def nat (n : Nat) : Json := .number (.integer false n)

/-- An object with the given member names. -/
def record (members : List (String × Json)) : Json :=
  .object (members.map fun member => (some member.1, member.2))

/-- The value of an optional field: `null` stands for nothing. -/
def ofOption : Option Json → Json
  | some value => value
  | none => .null

mutual

/-- The same value with the members of every object in the order of their names. -/
def sortMembers : Json → Json
  | .array items => .array (sortItems items)
  | .object members =>
    .object ((sortEach members).mergeSort fun a b => a.1.getD "" ≤ b.1.getD "")
  | value => value

/-- `sortMembers` for each item of an array. -/
def sortItems : List Json → List Json
  | [] => []
  | item :: rest => sortMembers item :: sortItems rest

/-- `sortMembers` for the value of each member. -/
def sortEach : List (JsonText × Json) → List (JsonText × Json)
  | [] => []
  | (name, value) :: rest => (name, sortMembers value) :: sortEach rest

end

mutual

/-- The number of arrays and objects that stand within one another, at the deepest place. -/
def depth : Json → Nat
  | .array items => depthItems items + 1
  | .object members => depthMembers members + 1
  | _ => 0

/-- The greatest depth of some items. -/
def depthItems : List Json → Nat
  | [] => 0
  | item :: rest => max (depth item) (depthItems rest)

/-- The greatest depth of some members. -/
def depthMembers : List (JsonText × Json) → Nat
  | [] => 0
  | (_, value) :: rest => max (depth value) (depthMembers rest)

end

end Json

end CompilerDriver
