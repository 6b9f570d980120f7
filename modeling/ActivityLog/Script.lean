/-!
# Field functions written as data

A script describes a function of a request, a response and a record: what it reads, what it stores, what it gives
back. Scripts are data, so a field description that holds one can be shown again as it was given.
-/

namespace ActivityLog

/-- A piece of a joined text. -/
inductive Script.Part where
  /-- A fixed text. -/
  | fixed (text : String)
  /-- The plain text of a field of the record, or `?` when it is missing. -/
  | recorded (name : String)
  deriving DecidableEq

/-- A function of a request, a response and a record. Parts left out of its description are `none`. -/
inductive Script (V : Type) where
  /-- A fixed value. -/
  | const (value : Option V)
  /-- A field of the record, or the default when it is missing. -/
  | recorded (name : String) (default : Option V)
  /-- A field of the record, a failure when it is missing. -/
  | demanded (name : String)
  /-- An item or attribute of the request. -/
  | ofRequest (name : String)
  /-- An item or attribute of the response. -/
  | ofResponse (name : String)
  /-- A copy of the record. -/
  | snapshot
  /-- The names of the record's fields. -/
  | keys
  /-- Stores a value in the record and gives back another. -/
  | set (name : String) (value result : Option V)
  /-- Takes a field out of the record and gives its value back. -/
  | pop (name : String)
  /-- One more at each call. -/
  | seq
  /-- The difference of two fields. -/
  | sub (minuend subtrahend : String)
  /-- A text put together. -/
  | join (parts : List Script.Part)
  /-- Whether request and response are those that were announced last. -/
  | same
  /-- Fails. -/
  | fail (kind message : String)

end ActivityLog
