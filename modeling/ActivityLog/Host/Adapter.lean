import ActivityLog.Host
import ActivityLog.Text.LowerCase
import ActivityLog.Value.Display

/-!
# One view of all hosts

An adapter knows how to read headers from a host and how to register for its completion. It finds out once, when it is
made, and keeps to it. Without a way to read headers every header reads as the empty text.
-/

namespace ActivityLog

/-- How headers are read. -/
inductive HeaderReader where
  /-- Not at all. -/
  | absent
  /-- By a function that looks names up exactly. -/
  | exact (items : List (String × Value))
  /-- By a function that fails. -/
  | failing (f : Failure)
  /-- In a table, an exact match first, then the first one in any case. -/
  | table (entries : List (Value × Value))
  /-- By exact look-up in a table. -/
  | getter (entries : List (Value × Value))
  /-- In a web framework's collection, in any case. -/
  | collection (entries : List (Value × Value))
  /-- From the response of a stand-in. -/
  | ofHandle

/-- How to register for completion. -/
inductive Registrar where
  | onCompletion
  | onEvent
  | failing (f : Failure)
  /-- With a stand-in. -/
  | ofHandle

/-- A host seen through the capabilities it had when the adapter was made. -/
structure Adapter where
  target : Nat
  reader : HeaderReader
  registrar : Option Registrar

namespace Headers

/-- The value of the entry with exactly this name. -/
def named? (entries : List (Value × Value)) (name : String) : Option Value :=
  entries.findSome? fun (k, v) => match k with
    | .text s => if s = name then some v else none
    | _ => none

/-- The value of the first entry whose name matches in any case. -/
def anyCase? (entries : List (Value × Value)) (name : String) : Option Value :=
  let small := Text.lower name
  entries.findSome? fun (k, v) => match k with
    | .text s => if Text.lower s = small then some v else none
    | _ => none

/-- Looks a name up in a table: exactly if possible, else in any case. -/
def look (entries : List (Value × Value)) (name : String) : Value :=
  ((named? entries name).orElse fun _ => anyCase? entries name).getD .null

/-- Looks a name up in a collection of small names. -/
def find (entries : List (Value × Value)) (name : String) : Except Failure Value :=
  let small := Text.lower name
  match Latin1.bytes small with
  | .error f => .error f
  | .ok _ => .ok ((named? entries small).getD .null)

/-- The fault of a field function that is called with one argument. -/
def tooFewArguments : Failure := .fault .type "missing 2 required positional arguments: 'response' and 'record'"

/-- Looks a name up by a value's own method for that. -/
def ask (headers : Value) (name : String) : Except Failure Value :=
  match headers with
  | .dict entries => .ok ((entries.lookup name).getD .null)
  | .headers .table entries | .headers .mapping entries | .headers .getter entries =>
    .ok ((named? entries name).getD .null)
  | .headers (.collection _) entries => find entries name
  | v =>
    match v.attribute? "get" with
    | some (.function (.script _)) => .error tooFewArguments
    | some method => .error (.notCallable method)
    | none => .error (.noAttribute v "get")

/-- The reader for a value found under `headers`. -/
def readerOf : Value → HeaderReader
  | .dict entries => .table (entries.map fun (k, v) => (.text k, v))
  | .headers .table entries => .table entries
  | .headers .mapping entries => .table entries
  | .headers .getter entries => .getter entries
  | .headers (.collection _) entries => .collection entries
  | v => match v.attribute? "get" with
    | some (.function _) => .failing tooFewArguments
    | _ => .absent

end Headers

namespace Adapter

/-- The reader that an accessor attribute gives, if it can be called. -/
def accessorReader : Option Attribute → Option HeaderReader
  | some (.lookup items) => some (.exact items)
  | some (.failing f) => some (.failing f)
  | some (.value (.function _)) => some (.failing Headers.tooFewArguments)
  | _ => none

/-- How headers are read from a host without an accessor. -/
def headersReader (h : Host) : Except Failure HeaderReader := do
  match ← h.content "headers" with
  | .null => return Headers.readerOf (← if h.isMapping then h.ask "headers" else .ok .null)
  | v => return Headers.readerOf v

/-- How headers are read from a host: a stand-in's own accessor may have been replaced. -/
def detectReader (h : Host) : Except Failure HeaderReader :=
  match h.nature, h.attributes.contains "header" with
  | .handle _, false => .ok .ofHandle
  | _, _ =>
    match accessorReader (h.find? "header"), accessorReader (h.find? "get_header") with
    | some r, _ => .ok r
    | none, some r => .ok r
    | none, none => headersReader h

/-- Whether it takes a look at the headers themselves to find out how they are read. -/
def looksAtHeaders (h : Host) : Bool :=
  match h.nature, h.attributes.contains "header" with
  | .handle _, false => false
  | _, _ => (accessorReader (h.find? "header")).isNone && (accessorReader (h.find? "get_header")).isNone

/-- The way to register that an attribute gives, if it can be called. -/
def registrarOf : Option Attribute → Option Registrar
  | some (.subscribe true) => some .onEvent
  | some (.subscribe false) => some .onCompletion
  | some (.failing f) => some (.failing f)
  | some (.value (.function _)) => some (.failing Headers.tooFewArguments)
  | _ => none

/-- How to register with a host: a stand-in's own way may have been replaced. -/
def detectRegistrar (h : Host) : Option Registrar :=
  match h.nature, h.attributes.contains "on_completion" with
  | .handle _, false => some .ofHandle
  | _, _ => (registrarOf (h.find? "on_completion")).orElse fun _ => registrarOf (h.find? "on")

/-- The adapter of a host. -/
def make (target : Nat) (h : Host) : Except Failure Adapter :=
  (detectReader h).map fun r => ⟨target, r, detectRegistrar h⟩

/-- Whether the host has a way to read headers. -/
def supportsHeaders (a : Adapter) : Bool :=
  match a.reader with
  | .absent => false
  | _ => true

/-- Whether the host has a way to register for completion. -/
def supportsCompletion (a : Adapter) : Bool := a.registrar.isSome

/-- A header of what a stand-in passes reads on to, absent as long as there is nothing. -/
def readBound (h : Host) (name : String) : Except Failure Value :=
  match h.nature with
  | .handle ⟨some bound, _⟩ => bound.headers.bind fun headers => Headers.ask headers name
  | _ => .ok .null

/-- A header of the host as it is now: absent when missing, empty without a way to read headers. -/
def readHeader (a : Adapter) (h : Host) (name : String) : Except Failure Value :=
  match a.reader with
  | .absent => .ok (.text "")
  | .exact items => .ok ((items.lookup name).getD .null)
  | .failing f => .error f
  | .table entries => .ok (Headers.look entries name)
  | .getter entries => .ok ((Headers.named? entries name).getD .null)
  | .collection entries => Headers.find entries name
  | .ofHandle => readBound h name

/-- The host after a header has been read: what a stand-in passes reads on to has been asked for its headers. -/
def looked (a : Adapter) (h : Host) : Host :=
  match a.reader with
  | .ofHandle => h.seen "headers"
  | _ => h

end Adapter

namespace Host

/-- An attribute of the host, or an item when the host is a mapping; of a dictionary items only. -/
def readField (h : Host) (name : String) : Except Failure Value :=
  match h.nature with
  | .dict => h.ask name
  | _ =>
    match h.attr name with
    | .error f => .error f
    | .ok .null => if h.isMapping then h.ask name else .ok .null
    | .ok v => .ok v

/-- An attribute of the host's state object. What comes with the type of states goes before what is stored. -/
def stateAttr (h : Host) (state : Value) (name : String) : Value :=
  match state with
  | .object (.typed _ _ _ _) _ =>
    (stateAttr? (.shared (.stateEntries h.number) false) name).getD (state.attr name)
  | .object (.refusing _ _) _ =>
    ((state.attr? name).orElse fun _ => commonAttr? sealedType ["__init__", "__setattr__"] name).getD .null
  | state => (state.attribute? name).getD .null

/-- A value stored on the host: on its state if it has one, else among the items of a mapping, else among the
attributes. -/
def readStored (h : Host) (name : String) : Except Failure Value :=
  match h.content "state" with
  | .error f => .error f
  | .ok .null => if h.isMapping then h.ask name else h.attr name
  | .ok state => .ok (h.stateAttr state name)

/-- What became of a write. -/
inductive Write where
  | done (h : Host)
  /-- The host does not take attributes. -/
  | refused
  | failed (f : Failure)

/-- The fault of an object that refuses writes, by its kind. -/
def readOnly (kind : FaultKind) : Failure :=
  match kind with
  | .key => .fault .key (Text.quoted "read-only")
  | kind => .fault kind "read-only"

/-- The refusal of an object, by the kind of its fault. -/
def refusal (kind : FaultKind) : Write :=
  match kind with
  | .attribute => .refused
  | .type => .refused
  | kind => .failed (readOnly kind)

/-- What every object has and does not let go of; a bag does not let go of its table either. -/
def fixedNames (isBag : Bool) : List String := ["__class__", if isBag then "__dict__" else "__weakref__"]

/-- The host with a table of other attributes than it had. -/
def withTable (h : Host) (entries : List (String × Value)) : Host :=
  let nature := match h.nature with
    | .handle _ => .handle {}
    | nature => nature
  entries.foldl (fun h e => h.withValue e.1 e.2) { h with nature, attributes := {} }

/-- Writes an attribute of an object that takes attributes. -/
def writeOpen (h : Host) (isBag : Bool) (name : String) (v : Value) : Write :=
  if (fixedNames isBag).contains name then .refused
  else if name = "__dict__" then
    match v with
    | .dict entries => .done (h.withTable entries)
    | _ => .refused
  else .done (h.withValue name v)

/-- Writes an attribute of the host itself. -/
def writeAttr (h : Host) (name : String) (v : Value) : Write :=
  match h.nature with
  | .sealed kind => refusal kind
  | .value _ | .bare => .refused
  | .bag => h.writeOpen true name v
  | _ => h.writeOpen false name v

/-- Writes an attribute of the host's state. -/
def writeState (h : Host) (state : Value) (name : String) (v : Value) : Write :=
  match state with
  | .object (.refusing _ fault) _ => refusal (.ofName fault)
  | .object .plain values =>
    if (fixedNames true).contains name then .refused
    else .done (h.withState (withValues state ((OrderedMap.mk values).insert name v).entries))
  | .object _ values => .done (h.withState (withValues state ((OrderedMap.mk values).insert name v).entries))
  | _ => .refused

/-- Writes an item of a mapping. Its refusal is no refusal of an attribute, whatever it fails with. -/
def writeItem (h : Host) (name : String) (v : Value) : Write :=
  match h.changeItems (h.items.insert name v) with
  | .ok h => .done h
  | .error f => .failed f

/-- Stores a value on the host: as an item if items can be written, else on its state if it has one, else as an
attribute. -/
def writeField (h : Host) (name : String) (v : Value) : Write :=
  if h.isMutableMapping then h.writeItem name v
  else match h.content "state" with
    | .error f => .failed f
    | .ok .null => h.writeAttr name v
    | .ok state => h.writeState state name v

end Host

end ActivityLog
