/-
# Sets of characters

A set of characters is written as the ranges of code points that it holds,
both ends included, in ascending order.

Key definitions: `CharSet`, `CharSet.has`.
-/

namespace WireSchema

/-- Ranges of code points, first and last included. -/
abbrev CharSet := List (Nat × Nat)

/-- Whether the character lies in one of the ranges. -/
def CharSet.has (set : CharSet) (c : Char) : Bool :=
  set.any fun range => decide (range.1 ≤ c.toNat) && decide (c.toNat ≤ range.2)

end WireSchema
