/-!
# `TypeExpr.Text.Ranges`: sets of code points as ranges

A property of characters beyond ASCII is given as a list of closed ranges; `inRanges` looks a code
point up, and `inRanges_iff` says what it finds.
-/

namespace TypeExpr.Text

/-- Whether `n` lies in one of the closed ranges. -/
def inRanges (ranges : List (Nat × Nat)) (n : Nat) : Bool :=
  ranges.any fun r => decide (r.1 ≤ n) && decide (n ≤ r.2)

theorem inRanges_iff {ranges : List (Nat × Nat)} {n : Nat} :
    inRanges ranges n = true ↔ ∃ r ∈ ranges, r.1 ≤ n ∧ n ≤ r.2 := by
  simp [inRanges, List.any_eq_true]

end TypeExpr.Text
