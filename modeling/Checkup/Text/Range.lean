/-!
# Ranges of code points
-/

namespace Checkup.Text

/-- Tells whether a character lies in one of the ranges, both ends included. -/
def inRanges (ranges : Array (Nat × Nat)) (c : Char) : Bool :=
  ranges.any fun (first, last) => first ≤ c.toNat && c.toNat ≤ last

end Checkup.Text
