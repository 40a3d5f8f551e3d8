/-! Sets of code points, given as ranges in increasing order. -/
namespace Pinpoint.Text

/-- Whether a number lies in one of the ranges. Ranges are increasing, so the search ends at the
first one that begins after the number. -/
def inRanges : List (Nat × Nat) → Nat → Bool
  | [], _ => false
  | (low, high) :: more, n => low ≤ n && (n ≤ high || inRanges more n)

theorem inRanges_eq_false_of_lt {low high n : Nat} {more : List (Nat × Nat)} (below : n < low) :
    inRanges ((low, high) :: more) n = false := by
  simp [inRanges, Nat.not_le.mpr below]

end Pinpoint.Text
