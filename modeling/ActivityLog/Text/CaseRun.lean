/-!
# Runs of case pairs

A table of case pairs is a list of runs: every `step`-th code point from `first` to `last` maps to the code point at
the same distance from `image`.
-/

namespace ActivityLog.Text

/-- A run of evenly spaced code points and where it maps to. -/
structure CaseRun where
  first : Nat
  last : Nat
  step : Nat
  image : Nat

/-- Where the run maps a code point that belongs to it. -/
def CaseRun.map? (r : CaseRun) (n : Nat) : Option Nat :=
  if r.first ≤ n ∧ n ≤ r.last ∧ (n - r.first) % r.step = 0 then some (r.image + (n - r.first)) else none

/-- A code point through a table of runs; one that no run has is kept. -/
def CaseRun.apply (table : List CaseRun) (n : Nat) : Nat :=
  (table.findSome? (·.map? n)).getD n

end ActivityLog.Text
