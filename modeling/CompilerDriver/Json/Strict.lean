import CompilerDriver.Json.Basic
import CompilerDriver.Text.Digits

/-!
# Strict values

Some records cannot be read member by member, because a member decides how the others are to be read.
Such a record is held in memory as a whole, and all of it has to make sense, also what is then skipped:
strings must be text, numbers must lie in the range of double precision, and nesting has a limit.

The range ends where the reader of numbers can no longer go on. It gathers the digits in a word of 64 bits and
multiplies them with a power of ten, and rounds both factors and their product to double precision. So a
number very near the end may count as too large although its nearest neighbour would not.
-/

namespace CompilerDriver

/-! ## Double precision -/

namespace DoublePrecision

/-- The multiple of `unit` nearest to a number. Of two that are equally near, the even one. -/
def nearestMultiple (unit n : Nat) : Nat :=
  let below := n / unit
  let rest := 2 * (n % unit)
  if rest < unit ∨ (rest = unit ∧ below % 2 = 0) then below * unit else (below + 1) * unit

/-- A whole number rounded to 53 binary digits. -/
def round (n : Nat) : Nat := nearestMultiple (Nat.pow 2 (n.log2 - 52)) n

/-- The least number that is rounded past all finite ones: it lies in the middle between the greatest of them
and 2^1024. -/
def overflow : Nat := Nat.pow 2 1024 - Nat.pow 2 970

/-- The greatest power of ten that is finite. -/
def maxPower : Nat := 308

/-- Whether a product of a number and a power of ten is finite. -/
def isFinite (n power : Nat) : Bool :=
  n == 0 || (power ≤ maxPower && round n * round (Nat.pow 10 power) < overflow)

end DoublePrecision

namespace JsonNumber

/-- Reads on after `n` as long as the number stays below 2^64. Gives it and the digits left. -/
def gather (n : Nat) : List Char → Nat × List Char
  | [] => (n, [])
  | c :: cs =>
    let next := n * 10 + Digits.digitValue c
    if next < UInt64.size then gather next cs else (n, c :: cs)

/-- The digits of a number that a word of 64 bits can hold, and the power of ten that they are multiplied with.
Whole digits that are left count towards the power, and digits of the fraction that are left do not count. -/
def scaled (whole fraction : List Char) (exponent : Int) : Nat × Int :=
  let (n, wholeLeft) := gather 0 whole
  let (n, fractionLeft) := gather n fraction
  (n, exponent + wholeLeft.length + fractionLeft.length - fraction.length)

/-- Whether a number lies in the range of double precision. -/
def isFinite (n : JsonNumber) : Bool :=
  let (significand, power) := match n with
    | .integer _ magnitude => scaled (Digits.decimal magnitude) [] 0
    | .decimal _ whole fraction exponent => scaled (Digits.decimal whole) fraction exponent
  DoublePrecision.isFinite significand power.toNat

end JsonNumber

namespace Json

mutual

/-- Whether every string, also as a member name, is text and every number is finite. -/
def isPlain : Json → Bool
  | .string s => s.isSome
  | .number n => n.isFinite
  | .array items => isPlainItems items
  | .object members => isPlainMembers members
  | _ => true

/-- `isPlain` for every item. -/
def isPlainItems : List Json → Bool
  | [] => true
  | item :: rest => isPlain item && isPlainItems rest

/-- `isPlain` for every member and its name. -/
def isPlainMembers : List (JsonText × Json) → Bool
  | [] => true
  | (name, value) :: rest => name.isSome && isPlain value && isPlainMembers rest

end

/-- The greatest depth of a value that is held in memory as a whole. -/
def maxDepth : Nat := 127

/-- Whether a value can be held in memory as a whole. -/
def isStrict (value : Json) : Bool := value.depth ≤ maxDepth && value.isPlain

end Json

end CompilerDriver
