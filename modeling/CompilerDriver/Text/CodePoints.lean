/-!
# Sets of code points

A property of characters is given as the stretches of code points that have it.
-/

namespace CompilerDriver.Text

/-- The first and the last code point of each stretch of a set, in ascending order. -/
abbrev Stretches := List (Nat × Nat)

namespace Stretches

/-- Whether a character belongs to a set. -/
def contains (stretches : Stretches) (c : Char) : Bool :=
  stretches.any fun (first, last) => first ≤ c.toNat && c.toNat ≤ last

/-- Whether the stretches from `least` on are in order, with a gap between each two. -/
def isSortedFrom : (least : Nat) → Stretches → Bool
  | _, [] => true
  | least, (first, last) :: rest => least ≤ first && first ≤ last && isSortedFrom (last + 2) rest

end Stretches

end CompilerDriver.Text
