/-!
# Ranges of code points

A class of characters as the ranges of its code points, both ends included.
-/

namespace ClusterTick.Text

/-- A class of characters by the ranges of its code points. -/
abbrev CodeRanges := List (Nat × Nat)

/-- Whether a character is in a class. -/
def isWithin (ranges : CodeRanges) (c : Char) : Bool :=
  ranges.any fun range => range.1 ≤ c.toNat && c.toNat ≤ range.2

end ClusterTick.Text
