import ActivityLog.Context
import ActivityLog.Descriptor.Reference
import ActivityLog.Diagnostic
import ActivityLog.Host.Adapter
import ActivityLog.Logging.Hierarchy
import ActivityLog.Settings

/-!
# The state of an application

Everything that outlives one call: hosts, lifecycles, contexts, cores, pipelines and facades by number, the shared
logging configuration and what was set for single loggers, settings, the sources of time and of ids, and what has been
said, written and called so far. An `Act` is a step on this state that may fail; what it did before failing stays done.
-/

namespace ActivityLog

/-- The states of a request's log, in order. -/
inductive LifecycleState where
  | created
  | preResolved
  | awaitingCompletion
  | postResolved
  | emitted
  deriving DecidableEq, Repr

namespace LifecycleState

/-- The name of a state. -/
def name : LifecycleState → String
  | .created => "created"
  | .preResolved => "pre_resolved"
  | .awaitingCompletion => "awaiting_completion"
  | .postResolved => "post_resolved"
  | .emitted => "emitted"

/-- The place of a state in the order. -/
def rank : LifecycleState → Nat
  | .created => 0
  | .preResolved => 1
  | .awaitingCompletion => 2
  | .postResolved => 3
  | .emitted => 4

end LifecycleState

/-- The log of one request. -/
structure Lifecycle where
  pipeline : Nat
  request : Adapter
  response : Adapter
  record : Record
  state : LifecycleState := .created

/-- A pipeline: the core that gets its records, its fields, and the level it logs with. -/
structure Pipeline where
  core : Nat
  config : FieldConfig
  level : Value

/-- A core that takes note of every call, and fails where it is told to. -/
structure RecordingCore where
  config : FieldConfig := {}
  seed : Record := {}
  overrides : Record := {}
  failures : OrderedMap Failure := {}

/-- What events go through to become lines: the shared logging configuration, however it changes, or one that was made
apart from it. -/
inductive Chain where
  | shared
  | apart (layout : Layout)

/-- A core that writes records and messages as log lines. -/
structure StructuredCore where
  config : FieldConfig
  overrides : Record := {}
  /-- What its records go through, from the first one on. -/
  chain : Option Chain := none

/-- A logging core's own data. -/
inductive CoreData where
  | recording (c : RecordingCore)
  | structured (c : StructuredCore)

/-- The entry point of an application: core and fields as far as they are given, and the pipeline once it is built. -/
structure Facade where
  core : Option Nat := none
  config : Option FieldConfig := none
  pipeline : Option Nat := none

/-- A source of time: readings to come, and the last one. -/
structure Clock where
  pending : List Int := []
  last : Int := 1704067200000000

/-- A finished log line. -/
structure Line where
  logger : String
  level : Level
  text : String

/-- A call that was noted, with the hosts and logs that its arguments refer to as they were at that time. -/
structure Call where
  arguments : List Value
  hosts : Table Host
  lifecycles : Table Lifecycle

/-- The state of an application. -/
structure World where
  catalogue : Catalogue := []
  environment : List (String × String) := []
  files : List (String × List UInt8) := []
  settings : Option Settings := none
  logging : Option LoggingState := none
  /-- The configuration that lines go by instead of the shared one: the last that was made apart. -/
  ownLogging : Option LoggingState := none
  loggers : LoggerTree := {}
  span : Option Span := none
  clock : Clock := {}
  /-- How many ids have been drawn. -/
  serial : Nat := 0
  /-- How often a counting script has run. -/
  counter : Nat := 0
  hosts : Table Host := {}
  /-- The request and the response that were announced last, by number. -/
  announced : Option (Nat × Nat) := none
  lifecycles : Table Lifecycle := {}
  contexts : Contexts := {}
  cores : Table CoreData := {}
  pipelines : Table Pipeline := {}
  facades : Table Facade := {}
  /-- The entry point that the application has by itself, once it is needed. -/
  ownFacade : Option Nat := none
  diagnostics : List Diagnostic := []
  lines : List Line := []
  /-- Calls that were noted: a name first, then arguments. -/
  calls : List Call := []

instance : Inhabited World := ⟨{}⟩

/-- A step on the state that may fail. -/
abbrev Act (α : Type) := ExceptT Failure (StateM World) α

namespace Act

/-- A failure. -/
def fail {α : Type} (f : Failure) : Act α := throw f

/-- A result or failure that is known already. -/
def ofExcept {α : Type} : Except Failure α → Act α
  | .ok a => pure a
  | .error f => throw f

/-- The outcome of a step, its failure caught. -/
def outcome {α : Type} (x : Act α) : Act (Except Failure α) :=
  ExceptT.mk do return .ok (← x.run)

/-- Takes note of diagnostics. -/
def diagnose (ds : List Diagnostic) : Act Unit :=
  modify fun w => { w with diagnostics := w.diagnostics ++ ds }

/-- Takes note of a call. -/
def note (call : List Value) : Act Unit :=
  modify fun w => { w with calls := w.calls ++ [⟨call, w.hosts, w.lifecycles⟩] }

/-- Something that is missing though its number was given out. -/
def unknown {α : Type} (what : String) : Act α := throw (.fault (.other "LookupError") ("unknown " ++ what))

/-- A row that must be there. -/
def row {α : Type} (what : String) (o : Option α) : Act α :=
  match o with
  | some a => pure a
  | none => unknown what

/-- A host by its number. -/
def host (id : Nat) : Act Host := do row "host" ((← get).hosts.get? id)

/-- A lifecycle by its number. -/
def lifecycle (id : Nat) : Act Lifecycle := do row "lifecycle" ((← get).lifecycles.get? id)

/-- A pipeline by its number. -/
def pipeline (id : Nat) : Act Pipeline := do row "pipeline" ((← get).pipelines.get? id)

/-- A core's data by its number. -/
def core (id : Nat) : Act CoreData := do row "core" ((← get).cores.get? id)

/-- A facade by its number. -/
def facade (id : Nat) : Act Facade := do row "facade" ((← get).facades.get? id)

/-- A further host, which gets to know its number. -/
def addHost (h : Host) : Act Nat := do
  let id := (← get).hosts.next
  modify fun w => { w with hosts := w.hosts.add { h with number := id } }
  return id

/-- Announces a request and a response: from now on these are the ones that scripts compare theirs with. -/
def announce (request response : Nat) : Act Unit :=
  modify fun w => { w with announced := some (request, response) }

/-- Replaces a host. -/
def setHost (id : Nat) (h : Host) : Act Unit :=
  modify fun w => { w with hosts := w.hosts.set id h }

/-- A further lifecycle. -/
def addLifecycle (l : Lifecycle) : Act Nat := do
  let id := (← get).lifecycles.next
  modify fun w => { w with lifecycles := w.lifecycles.add l }
  return id

/-- Replaces a lifecycle. -/
def setLifecycle (id : Nat) (l : Lifecycle) : Act Unit :=
  modify fun w => { w with lifecycles := w.lifecycles.set id l }

/-- A further core. -/
def addCore (c : CoreData) : Act Nat := do
  let id := (← get).cores.next
  modify fun w => { w with cores := w.cores.add c }
  return id

/-- Replaces a core's data. -/
def setCore (id : Nat) (c : CoreData) : Act Unit :=
  modify fun w => { w with cores := w.cores.set id c }

/-- A further pipeline. -/
def addPipeline (p : Pipeline) : Act Nat := do
  let id := (← get).pipelines.next
  modify fun w => { w with pipelines := w.pipelines.add p }
  return id

/-- A further facade. -/
def addFacade (f : Facade) : Act Nat := do
  let id := (← get).facades.next
  modify fun w => { w with facades := w.facades.add f }
  return id

/-- Replaces a facade. -/
def setFacade (id : Nat) (f : Facade) : Act Unit :=
  modify fun w => { w with facades := w.facades.set id f }

/-- Changes a facade as it is by now. -/
def changeFacade (id : Nat) (change : Facade → Facade) : Act Unit :=
  modify fun w => { w with facades := w.facades.modify id change }

end Act

namespace World

/-- The record of a lifecycle. -/
def recordOf (w : World) (id : Nat) : Record := ((w.lifecycles.get? id).map (·.record)).getD {}

/-- The state in which a lifecycle has another record. -/
def withRecord (w : World) (id : Nat) (record : Record) : World :=
  { w with lifecycles := w.lifecycles.modify id fun l => { l with record } }

/-- Looks at a host; a number that was never given out has no host and reads as a host without anything. -/
def hostOf (w : World) (id : Nat) : Host := (w.hosts.get? id).getD Host.bare

/-- The state after an attribute of a host has been looked at. -/
def look (w : World) (id : Nat) (name : String) : World := { w with hosts := w.hosts.modify id (·.seen name) }

/-- Whether two numbers stand for the same host. -/
def isSameHost (w : World) (a b : Nat) : Bool := a == b || (w.hostOf a).isSame (w.hostOf b)

/-- What something shared holds by now. -/
def content (w : World) : Shared → Value
  | .record id => .dict (w.recordOf id).entries
  | .state id => (w.hostOf id).state
  | .stateEntries id => .dict (Host.stateValues (w.hostOf id).state)
  | .scope id => .dict (w.hostOf id).items.entries

/-- What stands for something shared within itself. -/
def within : Shared → Value
  | .state _ => .plainItself
  | _ => .itself

/-- What a reference stands for: what the thing holds, or an object that shows it when it is read-only. Something within
itself shows as such. The fuel bounds the depth of things within each other. -/
def follow (w : World) : Nat → List Shared → Shared → Bool → Value
  | 0, _, thing, _ => within thing
  | fuel + 1, path, thing, readOnly =>
    let held : Value :=
      if path.contains thing then within thing
      else (w.content thing).mapShared (w.follow fuel (thing :: path))
    if readOnly then .object (.typed "mappingproxy" ("mappingproxy(" ++ held.shown ++ ")") held.shown false) []
    else held

/-- How many things can be within each other. -/
def depth (w : World) : Nat := w.lifecycles.next + 3 * w.hosts.next + 1

/-- A value with all references replaced by what they stand for. -/
def reveal (w : World) (v : Value) : Value := v.mapShared (w.follow w.depth [])

/-- A value that can be told apart from others by name: all that can be called in it belongs to a module. -/
def tellable (w : World) (v : Value) : Except Failure Value :=
  match (w.reveal v).nameless? with
  | some type => .error (.fault .attribute ("'" ++ type ++ "' object has no attribute '__module__'"))
  | none => .ok v

/-- Draws the next reading of the clock. -/
def tick (w : World) : Int × World :=
  match w.clock.pending with
  | t :: rest => (t, { w with clock := ⟨rest, t⟩ })
  | [] => (w.clock.last + 1000, { w with clock := ⟨[], w.clock.last + 1000⟩ })

/-- The text of the `n`-th id: 32 hexadecimal digits in five groups. -/
def idText (n : Nat) : String :=
  let ds := Text.hexList 32 n
  String.ofList ((ds.take 8) ++ '-' :: ((ds.drop 8).take 4 ++ '-' :: ((ds.drop 12).take 4 ++ '-' ::
    ((ds.drop 16).take 4 ++ '-' :: (ds.drop 20)))))

/-- Draws a fresh id. -/
def drawId (w : World) : String × World := (idText (w.serial + 1), { w with serial := w.serial + 1 })

end World

end ActivityLog
