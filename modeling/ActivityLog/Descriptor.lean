import ActivityLog.Phase
import ActivityLog.Value

/-!
# Field descriptors

A descriptor names one field of a record and says where its value comes from. A field configuration holds the
descriptors of the two phases of a request: one list for its arrival, one for its completion.
-/

namespace ActivityLog

/-- Where a field's value comes from. -/
inductive Source where
  /-- A header of the request, in the post phase of the response. -/
  | header (name : String)
  /-- A fixed value, written in the pre phase only. -/
  | fixed (value : Value)
  /-- An item or attribute of the request, in the post phase of the response. -/
  | field (name : String)
  /-- The value of another field of the record. -/
  | self (name : String)
  /-- A computed value, with one function for each phase. -/
  | time (pre post : Option FieldFunction)
  /-- Always the fallback. -/
  | special

/-- The name of a kind of source in documents. -/
def Source.tag : Source → String
  | .header _ => "header"
  | .fixed _ => "static"
  | .field _ => "field"
  | .self _ => "self"
  | .time _ _ => "time"
  | .special => "special"

/-- The description of one field. -/
structure Descriptor where
  name : String
  source : Source
  /-- Whether an absent value is to be filled in. -/
  mandatory : Bool := false
  /-- What a mandatory field without a value gets. -/
  default : Value := .null
  /-- What computes the value of a mandatory field without value and default, and of a special one. -/
  fallback : Option FieldFunction := none

/-- The descriptors of both phases. -/
structure FieldConfig where
  pre : List Descriptor := []
  post : List Descriptor := []

/-- The descriptors of a phase. -/
def FieldConfig.phase (c : FieldConfig) : Phase → List Descriptor
  | .pre => c.pre
  | .post => c.post

end ActivityLog
