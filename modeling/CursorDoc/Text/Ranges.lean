/-!
# Sets of code points

A set of code points is an increasing list of closed ranges.
-/

namespace CursorDoc.Text

/-- Whether `n` lies in one of the ranges, which are given in increasing order. -/
def inRanges : List (Nat × Nat) → Nat → Bool
  | [], _ => false
  | (low, high) :: rest, n => if n < low then false else if n ≤ high then true else inRanges rest n

end CursorDoc.Text
