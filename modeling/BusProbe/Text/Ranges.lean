/-!
# Ranges of code points

A class of characters given by a table of closed ranges of code points.
-/

set_option autoImplicit false
set_option relaxedAutoImplicit false

namespace BusProbe.Text

/-- Whether a code point lies in one of some closed ranges. -/
def inRanges (ranges : List (Nat × Nat)) (n : Nat) : Bool :=
  ranges.any fun range ↦ range.1 ≤ n && n ≤ range.2

/-- Whether some ranges are in order, each of them above the given bound and none of them empty. -/
def ascendingFrom (bound : Nat) : List (Nat × Nat) → Bool
  | [] => true
  | (first, last) :: rest => bound ≤ first && first ≤ last && ascendingFrom (last + 1) rest

end BusProbe.Text
