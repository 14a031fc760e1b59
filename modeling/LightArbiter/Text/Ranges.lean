/-!
# Ranges of code points

A set of characters is a table of ranges of code points, ends included.
-/

namespace LightArbiter.Text

/-- Does one of the ranges hold the code point? -/
def inRanges (ranges : Array (Nat × Nat)) (n : Nat) : Bool :=
  ranges.any fun (first, last) => first ≤ n && n ≤ last

end LightArbiter.Text
