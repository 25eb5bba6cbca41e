/-!
Sets of characters given by closed ranges of code points.
-/

namespace Foundry.Text

/-- A code point lies in one of the closed ranges. -/
def inRanges (ranges : List (Nat × Nat)) (n : Nat) : Bool :=
  ranges.any fun r => r.1 ≤ n && n ≤ r.2

end Foundry.Text
