/-!
Sets of numbers given by their bounds: the rising list of the places where membership changes.
-/

namespace SheetSearch.Text

/-- An odd number of the bounds lies at or below a member. -/
def withinBounds : List Nat → Nat → Bool
  | [], _ => false
  | b :: bs, n => decide (b ≤ n) && !withinBounds bs n

end SheetSearch.Text
