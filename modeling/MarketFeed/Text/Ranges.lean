set_option autoImplicit false

/-!
# Sets of characters

A set of characters as a list of ranges of code points, ends included.
-/

namespace MarketFeed

/-- Whether a character lies in one of the ranges. -/
def inRanges (ranges : List (Nat × Nat)) (c : Char) : Bool :=
  ranges.any fun r => r.1 ≤ c.toNat && c.toNat ≤ r.2

end MarketFeed
