/-! Sets of code points, written down as the ranges that make them up. -/
namespace AnnotatedTests

/-- Inclusive ranges of code points in increasing order. -/
abbrev CodePointRanges := List (Nat × Nat)

def CodePointRanges.covers (ranges : CodePointRanges) (n : Nat) : Bool :=
  ranges.any fun range => range.1 ≤ n && n ≤ range.2

theorem covers_iff (ranges : CodePointRanges) (n : Nat) :
    ranges.covers n = true ↔ ∃ range ∈ ranges, range.1 ≤ n ∧ n ≤ range.2 := by
  simp [CodePointRanges.covers, List.any_eq_true]

end AnnotatedTests
