/-!
# Ranges of characters

Properties of characters given by ranges of code points.
-/

namespace Signoff

/-- The code point lies in one of some ranges, given by their ends. -/
def inRanges (ranges : List (Nat × Nat)) (n : Nat) : Bool :=
  ranges.any fun (first, last) => first ≤ n && n ≤ last

end Signoff
