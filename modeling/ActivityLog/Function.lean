import ActivityLog.Calendar.Stamp
import ActivityLog.World

/-!
# Calling field functions

What scripts and built-in functions do when a request's pass calls them: they see the two hosts and the live record,
which they may change, and draw from the clock and the ids.
-/

namespace ActivityLog

/-- The hosts of one request, by number, and the log that the record belongs to, if it belongs to one. -/
structure Parties where
  request : Nat
  response : Nat
  log : Option Nat := none

/-- What a call leaves behind: its result, the record and the state. -/
abbrev Called := Except Failure Value × Record × World

namespace Value

/-- The number that takes part in a difference. -/
inductive Number where
  | int (n : Int)
  | float (x : Binary64)

/-- A value as a number; truth values count as 0 and 1. -/
def number? : Value → Option Number
  | .bool b => some (.int (if b then 1 else 0))
  | .int n => some (.int n)
  | .float x => some (.float x)
  | _ => none

/-- A whole number as a binary one, unless it is too large. -/
def widen (n : Int) : Except Failure Binary64 :=
  match Binary64.ofInt n with
  | .infinite _ => .error (.fault (.other "OverflowError") "int too large to convert to float")
  | x => .ok x

/-- The difference of two values. -/
def difference (a b : Value) : Except Failure Value :=
  match a.number?, b.number? with
  | some (.int m), some (.int n) => .ok (.int (m - n))
  | some (.float x), some (.float y) => .ok (.float (x.sub y))
  | some (.int m), some (.float y) => (widen m).map fun x => .float (x.sub y)
  | some (.float x), some (.int n) => (widen n).map fun y => .float (x.sub y)
  | _, _ =>
    .error (.fault .type ("unsupported operand type(s) for -: '" ++ a.qualifiedTypeName ++ "' and '" ++
      b.qualifiedTypeName ++ "'"))

end Value

/-- The fault of a record without a field. -/
def Failure.missingField (name : String) : Failure := .raised "KeyError" name

namespace Script

/-- A field that must be there. -/
def demand (record : Record) (name : String) : Except Failure Value :=
  match record.get? name with
  | some v => .ok v
  | none => .error (.missingField name)

/-- A part of a joined text. -/
def Part.text (w : World) (record : Record) : Part → Except Failure String
  | .fixed s => .ok s
  | .recorded name =>
    match record.get? name with
    | some v => (w.reveal v).written
    | none => .ok "?"

/-- A text put together. -/
def joined (w : World) (record : Record) (parts : List Part) : Except Failure Value := do
  return .text (String.join (← parts.mapM (Part.text w record)))

/-- Whether the request and the response of a call are those that were announced last. -/
def areAnnounced (w : World) (parties : Parties) : Bool × Bool :=
  match w.announced with
  | some (request, response) => (w.isSameHost parties.request request, w.isSameHost parties.response response)
  | none => (false, false)

/-- Reads an item or attribute of a host. -/
def read (w : World) (id : Nat) (name : String) (record : Record) : Called :=
  let w := if (w.hostOf id).isMapping then w else w.look id name
  ((w.hostOf id).member name, record, w)

/-- Runs a script. -/
def run (parties : Parties) (script : Script Value) (record : Record) (w : World) : Called :=
  match script with
  | .const value => (.ok (value.getD .null), record, w)
  | .recorded name default => (.ok ((record.get? name).getD (default.getD .null)), record, w)
  | .demanded name => (demand record name, record, w)
  | .ofRequest name => read w parties.request name record
  | .ofResponse name => read w parties.response name record
  | .snapshot => (.ok (.dict record.entries), record, w)
  | .keys => (.ok (.list (record.keys.map .text)), record, w)
  | .set name value result => (.ok (result.getD .null), record.insert name (value.getD .null), w)
  | .pop name => (.ok ((record.get? name).getD .null), record.erase name, w)
  | .seq => (.ok (.int (w.counter + 1)), record, { w with counter := w.counter + 1 })
  | .sub a b => ((do (← demand record a).difference (← demand record b)), record, w)
  | .join parts => (joined w record parts, record, w)
  | .same =>
    let (request, response) := areAnnounced w parties
    (.ok (.list [.bool request, .bool response]), record, w)
  | .fail kind message => (.error (.raised kind message), record, w)

end Script

namespace Builtin

/-- The milliseconds from the arrival of a request to its response, when the record has both stamps. -/
def elapsed (record : Record) : Except Failure Value :=
  match record.value "request_received_at", record.value "response_sent_at" with
  | .text received, .text sent =>
    match Stamp.read? sent, Stamp.read? received with
    | some later, some earlier =>
      match later.sub? earlier with
      | some micros => .ok (.float (millisOfMicros micros))
      | none => .error (.fault .type "can't subtract offset-naive and offset-aware datetimes")
    | _, _ => .ok .null
  | _, _ => .ok .null

/-- An attribute of the client's address. -/
def clientPart (request : Host) (name : String) : Except Failure Value :=
  (request.attr "client").map (·.attr name)

/-- The protocol's version, from the server's description of the call. -/
def protocol (request : Host) : Except Failure Value := do
  match ← request.content "scope" with
  | .dict entries =>
    match entries.lookup "http_version" with
    | some v => if v.truthy then return .text ("HTTP/" ++ (← v.written)) else return .null
    | none => return .null
  | _ => return .null

/-- The path of the request's address with its query, or the path of the request itself. -/
def pathAndQuery (request : Host) : Except Failure Value := do
  let url ← request.attr "url"
  match url.attr "path" with
  | .null => request.attr "path"
  | path =>
    let query := url.attr "query"
    if query.truthy then return .text ((← path.written) ++ "?" ++ (← query.written)) else return path

/-- The largest number of days between two moments. -/
def longestDays : Nat := 999999999

/-- What is wrong with a number of days that leads out of the calendar: more than a word holds, more than lie between
two moments, or just too many. -/
def daysFault (days : Int) : String :=
  if days < -Value.bound32 || Value.bound32 ≤ days then "Python int too large to convert to C int"
  else if longestDays < days.natAbs then
    "days=" ++ toString days ++ "; must have magnitude <= " ++ toString longestDays
  else "date value out of range"

/-- The stamp of a reading of the clock, which has to be a moment of the calendar. -/
def stamped (micros : Int) : Except Failure Value :=
  if Stamp.isInCalendar micros then .ok (.text (Stamp.write micros))
  else .error (.fault (.other "OverflowError") (daysFault (micros / Calendar.dayMicros)))

/-- Calls a built-in function. -/
def run (parties : Parties) (f : Builtin) (record : Record) (w : World) : Called :=
  let request := w.hostOf parties.request
  match f with
  | .timestamp =>
    (.error (.fault .type "_timestamp() takes 0 positional arguments but 3 were given"), record, w)
  | .newCorrelationId => let (id, w) := w.drawId; (.ok (.text id), record, w)
  | .receivedAt => let (t, w) := w.tick; (stamped t, record, w)
  | .sentAt => let (t, w) := w.tick; (stamped t, record, w)
  | .responseTime => (elapsed record, record, w)
  | .clientHost => (clientPart request "host", record, w)
  | .clientPort => (clientPart request "port", record, w)
  | .httpProtocol => (protocol request, record, w)
  | .requestPath => (pathAndQuery request, record, w.look parties.request "url")

end Builtin

end ActivityLog
