/-!
# Ranges of code points

A class of characters is a list of closed ranges of code points, in ascending order. Membership is
the only operation that the classes of this library need.
-/

namespace CallAtlas.Text

/-- Closed ranges of code points, ascending and apart. -/
abbrev Ranges := List (Nat × Nat)

/-- Whether the character lies in one of the ranges. -/
def Ranges.has (ranges : Ranges) (c : Char) : Bool :=
  ranges.any fun range => range.1 ≤ c.toNat && c.toNat ≤ range.2

end CallAtlas.Text
