import ActivityLog.Descriptor.Document
import ActivityLog.Function
import ActivityLog.Logging.Logger

/-!
# Logging cores

A logging core owns the field configuration, the correlation of messages, overrides and the way out for finished
records. The request pipeline knows a core only by this interface.
-/

namespace ActivityLog

/-- A logging core. -/
structure LoggingCore where
  /-- A record for a request that has just arrived. -/
  initLog : Act Record
  /-- The fields resolved on arrival. -/
  preFields : Act (List Descriptor)
  /-- The fields resolved on completion. -/
  postFields : Act (List Descriptor)
  /-- Puts logging helpers on the request's host. -/
  bindLogFunctions : Nat → Act Unit
  /-- Overrides fields right before a record goes out. -/
  writeStaticFields : Record → World → Except Failure Unit × Record × World
  /-- Takes a finished record. -/
  sendLog : Value → Record → Act Unit
  setLoggingLevel : Value → Act Unit
  setLogPattern : Value → Act Unit
  /-- Overrides a field from now on; whether an override is in force afterwards. -/
  overrideField : String → Value → Act Bool
  correlationObject : Act Value
  logMessage : Value → Value → Record → Act Unit

/-- What a pipeline works with: the cores by number, how field functions are called, and how they are found. -/
structure Surroundings where
  core : Nat → LoggingCore
  call : Parties → FieldFunction → Record → World → Called
  resolve : Document.Resolver Act

namespace Act

/-- Looks at an attribute of a host: the host as it is after that. -/
def look (id : Nat) (name : String) : Act Host := do
  let h := (← host id).seen name
  setHost id h
  return h

/-- Stores a value on a host. A host that takes no attributes is left as it is. -/
def writeField (id : Nat) (name : String) (v : Value) : Act Unit := do
  match (← look id "state").writeField name v with
  | .done h => setHost id h
  | .refused => diagnose [.notWritable (.text name)]
  | .failed f => throw f

/-- Reads a stored value back. -/
def readStored (id : Nat) (name : String) : Act Value := do ofExcept ((← look id "state").readStored name)

/-- The adapter of a host as it is now. -/
def adapter (id : Nat) : Act Adapter := do
  let h ← if Adapter.looksAtHeaders (← host id) then look id "headers" else host id
  ofExcept (Adapter.make id h)

/-- Reads a header through an adapter. -/
def readHeader (a : Adapter) (name : String) : Act Value := do
  let h := a.looked (← host a.target)
  setHost a.target h
  ofExcept (a.readHeader h name)

/-- Reads an attribute or item. -/
def readField (id : Nat) (name : String) : Act Value := do ofExcept ((← look id name).readField name)

/-- Registers a listener through an adapter; whether there is a completion to wait for. -/
def onCompletion (a : Adapter) (l : Listener) : Act Bool := do
  match a.registrar with
  | none => do
    diagnose [.completionUnavailable]
    return false
  | some (.failing f) => throw f
  | some registrar => do
    let h ← host a.target
    match registrar, h.nature with
    | .ofHandle, .handle stand =>
      match h.attributes.get? "_listeners" with
      | some (.value v) => throw (.noAttribute v "append")
      | _ => setHost a.target { h with nature := .handle (stand.register l) }
    | .onEvent, _ => setHost a.target { h with listeners := h.listeners ++ [(some "finish", l)] }
    | _, _ => setHost a.target { h with listeners := h.listeners ++ [(none, l)] }
    return true

end Act

end ActivityLog
