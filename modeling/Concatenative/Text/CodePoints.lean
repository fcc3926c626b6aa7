/-!
# Sets of code points

A property of characters is written as the list of ranges of code points that have it, both ends
included. Tables of characters are such lists, ascending and disjoint.
-/

namespace Concatenative.Text

/-- A set of code points as ranges with both ends included. -/
abbrev CodePoints := List (Nat × Nat)

namespace CodePoints

/-- Whether the code point of `c` lies in one of the ranges. -/
def has (set : CodePoints) (c : Char) : Bool :=
  set.any fun range => range.1 ≤ c.toNat && c.toNat ≤ range.2

end CodePoints

end Concatenative.Text
