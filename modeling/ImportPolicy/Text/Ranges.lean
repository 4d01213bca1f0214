/-! # Ranges of code points

A class of code points is given by the closed ranges of its numbers, in rising order.

* `inRanges` — whether a number lies in one of the ranges. -/

namespace ImportPolicy.Text

/-- Whether a number lies in one of some closed ranges. -/
def inRanges (ranges : List (Nat × Nat)) (n : Nat) : Bool :=
  ranges.any fun range => range.1 ≤ n && n ≤ range.2

end ImportPolicy.Text
