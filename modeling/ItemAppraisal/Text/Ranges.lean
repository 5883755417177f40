/-!
# Ranges of code points

A character property is written as a list of inclusive ranges of code points.
-/

namespace ItemAppraisal.Text

/-- Whether one of the inclusive `ranges` holds the code point `n`. -/
def inRanges (n : Nat) (ranges : List (Nat × Nat)) : Bool :=
  ranges.any fun (first, last) => first ≤ n && n ≤ last

theorem inRanges_iff {n : Nat} {ranges : List (Nat × Nat)} :
    inRanges n ranges = true ↔ ∃ range ∈ ranges, range.1 ≤ n ∧ n ≤ range.2 := by
  simp [inRanges]

end ItemAppraisal.Text
