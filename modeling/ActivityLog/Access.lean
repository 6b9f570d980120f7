import ActivityLog.Core

/-!
# Reaching into hosts

What functions do with the objects they are called with: read an attribute that must be there, set one, and look up,
write and take out items. An object that is reached may lack what is asked for, or refuse what is written.
-/

namespace ActivityLog

/-- The fault of a call of a value with so many arguments, which it is not made for. -/
def Failure.wrongCall (v : Value) (given : Nat) : Failure :=
  match v with
  | .function (.script _) =>
    let signature : Signature := { required := ["request", "response", "record"] }
    .fault .type ((signature.fault given []).getD "")
  | .function (.named _ (.foreign (.fails kind text))) => .fault (.ofName kind) text
  | .function (.named n _) => .fault .type (n.name ++ "() takes no " ++ toString given ++ " arguments")
  | v => .notCallable v

namespace Act

/-- What a host stands for as a value by now. -/
def valueOf (id : Nat) : Act Value := do return (← host id).toValue

/-- An attribute of a host, which must be there. -/
def demand (id : Nat) (name : String) : Act Value := do
  let h ← look id name
  if (h.find? name).isSome then ofExcept (h.attr name) else throw (h.missing name)

/-- An attribute of a context. -/
def contextAttr? (c : RequestContext) (name : String) : Option Value :=
  if name = "correlation_id" then some c.correlationId
  else if name = "attributes" then some (.dict c.attributes.entries)
  else if name = "detached" then some (.bool c.detached)
  else none

/-- An attribute of a value, which must be there. -/
def demandOf (v : Value) (name : String) : Act Value := do
  let w ← get
  let seen := match v with
    | .shared thing false => w.content thing
    | v => v
  let found := match v with
    | .context id => (w.contexts.table.get? id).bind fun c => contextAttr? c name
    | _ => seen.attribute? name
  match found with
  | some a => return a
  | none => throw (.noAttribute seen name)

/-- Attributes of a web request that are computed and cannot be set. -/
def computed : List String :=
  ["app", "url", "base_url", "headers", "query_params", "path_params", "cookies", "client", "session", "auth", "user",
    "state", "method", "receive"]

/-- Sets an attribute of a host, unless it refuses. -/
def setAttribute (id : Nat) (name : String) (v : Value) : Act Unit := do
  let h ← host id
  match h.nature with
  | .sealed kind => throw (Host.readOnly kind)
  | .bare | .value _ => throw (h.missing name)
  | .dict => if h.attributes.entries.isEmpty then throw (h.missing name) else setHost id (h.withValue name v)
  | .webRequest keeps =>
    if computed.contains name then
      throw (.fault .attribute ("property '" ++ name ++ "' of '" ++ (Host.requestType keeps).name ++
        "' object has no setter"))
    else setHost id (h.withValue name v)
  | _ => setHost id (h.withValue name v)

/-- Sets attributes one after the other. -/
def setAttributes (id : Nat) (attributes : List (String × Value)) : Act Unit :=
  attributes.forM fun (name, v) => setAttribute id name v

/-- The item of a host under a key. -/
def readItem (id : Nat) (key : Value) : Act Value := do ofExcept ((← host id).itemAt key)

/-- Replaces the value that a host is. -/
def replaceValue (id : Nat) (v : Value) : Act Unit := do setHost id { (← host id) with nature := .value v }

/-- Writes an item of a host. -/
def writeItem (id : Nat) (key v : Value) : Act Unit := do
  let h ← host id
  if h.isMutableMapping then
    if key.isHashable then setHost id (← ofExcept (h.changeItems (h.items.insert key.display v)))
    else throw (.unhashable key)
  else replaceValue id (← ofExcept (h.toValue.withItem key v))

/-- Takes an item out of a host, where it is. -/
def eraseItem (id : Nat) (key : Value) : Act Unit := do
  let h ← host id
  if h.isMutableMapping then setHost id (← ofExcept (h.changeItems (h.items.erase key.display)))
  else if h.isMapping then
    throw (.fault .type ("'" ++ h.toValue.qualifiedTypeName ++ "' object does not support item deletion"))
  else replaceValue id (← ofExcept (h.toValue.withoutItem key))

end Act

end ActivityLog
