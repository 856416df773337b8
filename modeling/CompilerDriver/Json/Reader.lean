import CompilerDriver.Json.Basic

/-!
# Reading JSON values into typed ones

The rules that all records of the driver share.

* A *record* is an object, where unknown names are skipped and a known one may stand only once, or an
  array of the fields in their order. `slots` brings both to one form: a slot for each field.
* How a slot is read depends on the field. A `required` one must be given. An `optional` one may be left
  out of an object or be `null`, but in an array it needs its place. A `defaulted` one may be left out of
  an object and of the end of an array, but must not be `null`.
* A *choice* between names is the name itself, or an object whose only member has that name.
* Integers are written without fraction and exponent, and negative zero is none.
-/

namespace CompilerDriver

namespace Json

/-! ## Scalars -/

/-- The text of a string. -/
def text? : Json → Option String
  | .string s => s
  | _ => none

/-- A truth value. -/
def bool? : Json → Option Bool
  | .bool b => some b
  | _ => none

/-- A whole number. -/
def int? : Json → Option Int
  | .number (.integer false n) => some n
  | .number (.integer true n) => if n = 0 then none else some (-n)
  | _ => none

/-- A whole number that a word of 32 bits with a sign can hold. -/
def int32? (value : Json) : Option Int32 := do
  let n ← value.int?
  if -2147483648 ≤ n ∧ n ≤ 2147483647 then some (Int32.ofInt n) else none

/-- A natural number below `bound`. -/
def natBelow? (bound : Nat) (value : Json) : Option Nat := do
  let n ← value.int?
  if 0 ≤ n ∧ n < bound then some n.toNat else none

/-- A natural number that a word of 64 bits can hold. -/
def uint64? (value : Json) : Option UInt64 := (value.natBelow? UInt64.size).map UInt64.ofNat

/-- An array of values that are all read the same way. -/
def list? {α : Type} (read : Json → Option α) : Json → Option (List α)
  | .array items => items.mapM read
  | _ => none

/-- Nothing for `null`, otherwise the value read. -/
def nullable {α : Type} (read : Json → Option α) : Json → Option (Option α)
  | .null => some none
  | value => (read value).map some

/-! ## Choices -/

/-- The member of `all` that a value names. -/
def choice? {α : Type} (name : α → String) (all : List α) : Json → Option α
  | .string (some s) => all.find? fun a => name a == s
  | .object [(some s, .null)] => all.find? fun a => name a == s
  | _ => none

/-! ## Records -/

/-- What a document holds for one field of a record. -/
inductive Slot where
  /-- A value. -/
  | given (value : Json)
  /-- Nothing: the object has no member of that name. -/
  | omitted
  /-- Nothing: the array ends before it. -/
  | beyond

/-- The slot of the field `name` of an object. -/
def slotOf (members : List (JsonText × Json)) (name : String) : Slot :=
  match members.find? fun member => member.1 == some name with
  | some member => .given member.2
  | none => .omitted

/-- Whether every member name is a text and every name of `names` stands at most once. -/
def wellNamed (names : List String) (members : List (JsonText × Json)) : Bool :=
  members.all (fun member => member.1.isSome) &&
    names.all fun name => (members.filter fun member => member.1 == some name).length ≤ 1

/-- The slots of a record with the fields `names`. -/
def slots (names : List String) : Json → Option (List Slot)
  | .object members => if wellNamed names members then some (names.map (slotOf members)) else none
  | .array items =>
    if items.length ≤ names.length then
      some (items.map .given ++ List.replicate (names.length - items.length) .beyond)
    else none
  | _ => none

/-- A field that must be given. -/
def Slot.required {α : Type} (read : Json → Option α) : Slot → Option α
  | .given value => read value
  | _ => none

/-- A field that may be left out of an object, or be `null`. -/
def Slot.optional {α : Type} (read : Json → Option α) : Slot → Option (Option α)
  | .given value => nullable read value
  | .omitted => some none
  | .beyond => none

/-- A field with a value for where it is left out. -/
def Slot.defaulted {α : Type} (read : Json → Option α) (default : α) : Slot → Option α
  | .given value => read value
  | _ => some default

end Json

end CompilerDriver
