/-!
# Ranges of code points

A character class outside ASCII is a table of closed ranges in increasing order.  This module
holds the test that reads such a table; the tables themselves stand in one module per property.
-/

namespace RelStore.Text

/-- A closed range of code points. -/
abbrev CodeRange := Nat × Nat

/-- Whether the code point lies in one of the ranges. -/
def inRanges (ranges : List CodeRange) (code : Nat) : Bool :=
  ranges.any fun range => range.1 ≤ code && code ≤ range.2

/-- A code point is covered exactly when some range of the table has it between its ends. -/
@[simp] theorem inRanges_eq_true_iff {ranges : List CodeRange} {code : Nat} :
    inRanges ranges code = true ↔ ∃ range ∈ ranges, range.1 ≤ code ∧ code ≤ range.2 := by
  simp [inRanges, List.any_eq_true]

end RelStore.Text
