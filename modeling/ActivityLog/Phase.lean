/-!
# Phases of a request

A request is logged in two phases: when it arrives, and when its response is complete.
-/

namespace ActivityLog

/-- The phase of a request. -/
inductive Phase where
  | pre
  | post
  deriving DecidableEq, Repr

/-- The name of a phase. -/
def Phase.name : Phase → String
  | .pre => "pre"
  | .post => "post"

end ActivityLog
