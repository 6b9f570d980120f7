import ActivityLog.Diagnostic

/-!
# Resolution passes

A pass resolves the descriptors of one phase into a record, in three parts. The sweep takes the descriptors in order:
it writes each one's primary value and fills in defaults, and puts off fallbacks and references to other fields. The
batch then calls the fallbacks that were put off, all before any of their results is written. Last, each reference
copies its target's value, one after the other.

What a pass reads and calls is a parameter (`Surface`), as is the state that its functions may change.
-/

namespace ActivityLog

/-- What a pass reads and calls. Looking at a header or a field may change the state; functions get the live record and
may change it. -/
structure Surface (σ : Type) where
  header : Phase → String → σ → Except Failure Value × σ
  field : Phase → String → σ → Except Failure Value × σ
  call : FieldFunction → Record → σ → Except Failure Value × Record × σ
  /-- Takes out what functions have had to say. -/
  heard : σ → List Diagnostic × σ

/-- What a source gives in a phase. -/
inductive Primary where
  /-- A value, perhaps an absent one. -/
  | value (v : Value)
  /-- The source writes nothing in this phase. -/
  | unresolved

/-- The value of a time field in the pre phase without a function for it. -/
def preTimeDefault : Value := .int (-1)

variable {σ : Type}

/-- The primary value of a source. -/
def Source.primary (env : Surface σ) (phase : Phase) (source : Source) (record : Record) (s : σ) :
    Except Failure Primary × Record × σ :=
  match source, phase with
  | .header name, _ => let (r, s) := env.header phase name s; (r.map .value, record, s)
  | .field name, _ => let (r, s) := env.field phase name s; (r.map .value, record, s)
  | .fixed value, .pre => (.ok (.value value), record, s)
  | .fixed _, .post => (.ok .unresolved, record, s)
  | .time none _, .pre => (.ok (.value preTimeDefault), record, s)
  | .time (some f) _, .pre => let (r, record, s) := env.call f record s; (r.map .value, record, s)
  | .time _ none, .post => (.ok .unresolved, record, s)
  | .time _ (some f), .post => let (r, record, s) := env.call f record s; (r.map .value, record, s)
  | .self _, _ => (.ok .unresolved, record, s)
  | .special, _ => (.ok .unresolved, record, s)

/-- The fallbacks put off to the end of the sweep, by field; a field may wait without having one. -/
abbrev FallbackQueue := OrderedMap (Option FieldFunction)

/-- Fills in a mandatory field that has no value: by its default, or by putting its fallback off. -/
def applyDefaults (phase : Phase) (d : Descriptor) (record : Record) (queue : FallbackQueue) :
    Record × FallbackQueue × List Diagnostic :=
  if !d.mandatory || !(record.value d.name).isNull then (record, queue, [])
  else if !d.default.isNull then (record.insert d.name d.default, queue, [])
  else (record, queue.insert d.name d.fallback, [.fallingBack d.name phase])

/-- A sweep under way. -/
structure Sweep (σ : Type) where
  record : Record
  state : σ
  queue : FallbackQueue := {}
  aliases : OrderedMap String := {}
  notes : List Diagnostic := []

namespace Sweep

/-- Writes what a source gave; a failure counts as an absent value. -/
def write (phase : Phase) (name : String) (result : Except Failure Primary) (record : Record) :
    Record × List Diagnostic :=
  match result with
  | .ok (.value v) => (record.store name v, [])
  | .ok .unresolved => (record, [])
  | .error e => (record.store name .null, [.resolutionFailed name phase e])

/-- A special source always waits for its fallback. -/
def enqueueSpecial (d : Descriptor) (queue : FallbackQueue) : FallbackQueue :=
  match d.source, d.fallback with
  | .special, some f => queue.insert d.name (some f)
  | _, _ => queue

/-- One descriptor. -/
def step (env : Surface σ) (phase : Phase) (sw : Sweep σ) (d : Descriptor) : Sweep σ :=
  match d.source with
  | .self target => { sw with aliases := sw.aliases.insert d.name target }
  | source =>
    let (result, record, state) := source.primary env phase sw.record sw.state
    let (heard, state) := env.heard state
    let (record, written) := write phase d.name result record
    let (record, queue, filled) := applyDefaults phase d record (enqueueSpecial d sw.queue)
    { sw with record, state, queue, notes := sw.notes ++ heard ++ written ++ filled }

/-- All descriptors in order. -/
def run (env : Surface σ) (phase : Phase) (ds : List Descriptor) (record : Record) (s : σ) : Sweep σ :=
  ds.foldl (step env phase) { record, state := s }

end Sweep

/-- A batch of fallbacks under way: the results so far, and what the functions made of record and state. -/
structure Batch (σ : Type) where
  record : Record
  state : σ
  results : List (String × Value) := []
  notes : List Diagnostic := []

namespace Batch

/-- Calls one fallback. -/
def step (env : Surface σ) (phase : Phase) (b : Batch σ) (entry : String × Option FieldFunction) : Batch σ :=
  match entry.2 with
  | none => { b with notes := b.notes ++ [.missingMandatory entry.1 phase] }
  | some f =>
    let (result, record, state) := env.call f b.record b.state
    let (heard, state) := env.heard state
    match result with
    | .ok v => { record, state, results := b.results ++ [(entry.1, v)], notes := b.notes ++ heard }
    | .error e => { b with record, state, notes := b.notes ++ heard ++ [.resolutionFailed entry.1 phase e] }

/-- Calls all fallbacks in the order in which they were put off. -/
def run (env : Surface σ) (phase : Phase) (queue : FallbackQueue) (record : Record) (s : σ) : Batch σ :=
  queue.entries.foldl (step env phase) { record, state := s }

end Batch

/-- Writes results one after the other. -/
def storeAll (record : Record) (results : List (String × Value)) : Record :=
  results.foldl (fun r e => r.store e.1 e.2) record

/-- Copies the targets of references one after the other. -/
def copyAliases (record : Record) (aliases : List (String × String)) : Record :=
  aliases.foldl (fun r e => r.store e.1 (r.value e.2)) record

/-- What a pass leaves behind. -/
structure PassResult (σ : Type) where
  record : Record
  state : σ
  notes : List Diagnostic

/-- A whole pass. -/
def resolvePass (env : Surface σ) (phase : Phase) (ds : List Descriptor) (record : Record) (s : σ) : PassResult σ :=
  let sw := Sweep.run env phase ds record s
  let b := Batch.run env phase sw.queue sw.record sw.state
  ⟨copyAliases (storeAll b.record b.results) sw.aliases.entries, b.state, sw.notes ++ b.notes⟩

end ActivityLog
