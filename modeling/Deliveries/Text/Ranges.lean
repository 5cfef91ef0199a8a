/-!
# Ranges of code points

A set of characters is held as a list of inclusive ranges of code points.
-/

namespace Deliveries
namespace Text

/-- A code point lies in a set when one of the inclusive ranges holds it. -/
def inRanges (ranges : List (Nat × Nat)) (code : Nat) : Bool :=
  ranges.any fun range => decide (range.1 ≤ code) && decide (code ≤ range.2)

end Text
end Deliveries
