/-!
# Tables of code points

A class of characters is a list of closed ranges of code points. `CodeRanges.contains_iff` says what membership means.
-/

namespace ActivityLog.Text

/-- Closed ranges of code points. -/
abbrev CodeRanges := List (Nat × Nat)

/-- Whether a code point lies in one of the ranges. -/
def CodeRanges.contains (ranges : CodeRanges) (n : Nat) : Bool :=
  ranges.any fun r => Nat.ble r.1 n && Nat.ble n r.2

/-- Membership in a table is membership in one of its ranges. -/
theorem CodeRanges.contains_iff {ranges : CodeRanges} {n : Nat} :
    ranges.contains n = true ↔ ∃ r ∈ ranges, r.1 ≤ n ∧ n ≤ r.2 := by
  simp [CodeRanges.contains, List.any_eq_true]

end ActivityLog.Text
