/-!
# Ranges of code points

A set of characters is given as a sorted list of disjoint ranges.
-/

namespace Metastore.Text

/-- Whether a code point lies in one of the ranges, which ascend and do not touch. -/
def inRanges : List (Nat × Nat) → Nat → Bool
  | [], _ => false
  | (low, high) :: rest, n => if n < low then false else n ≤ high || inRanges rest n

end Metastore.Text
