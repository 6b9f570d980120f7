import ActivityLog.Pipeline
import ActivityLog.Proofs.Act
import ActivityLog.Proofs.Pass.Simulation

/-!
# What the core gets to see

The attempts to hand a record over are observed at the core: `LoggingCore.watched` is a core that takes note of each
call that overrides or sends a record before it does what the call asks for, and `World.emissions` are the notes.

- `Steady`: pipelines stay, and so do logs, but for their records and for the state of the one that is busy.
- `Quiet`: steady, and nothing has been handed over.
- `Surroundings.Discreet`: hooks and field functions may fail and may change anything else, but they leave the logs to
  the pipeline.
-/

namespace ActivityLog

/-! ## Attempts to hand a record over -/

/-- A call of a core with a record. -/
inductive Emission where
  | overriding (record : Record)
  | sending (level : Value) (record : Record)

namespace Emission

/-- The call as a note. -/
def toCall : Emission → List Value
  | .overriding record => [.text "overriding", .dict record.entries]
  | .sending level record => [.text "sending", level, .dict record.entries]

/-- The call that a note is of. -/
def ofCall? : List Value → Option Emission
  | [.text "overriding", .dict entries] => some (.overriding ⟨entries⟩)
  | [.text "sending", level, .dict entries] => some (.sending level ⟨entries⟩)
  | _ => none

theorem ofCall?_toCall (e : Emission) : ofCall? e.toCall = some e := by cases e <;> rfl

end Emission

namespace World

/-- The calls with records that were noted so far. -/
def emissions (w : World) : List Emission := w.calls.filterMap fun c => Emission.ofCall? c.arguments

/-- The state after a call with a record has been noted. -/
def noted (w : World) (e : Emission) : World := { w with calls := w.calls ++ [⟨e.toCall, w.hosts, w.lifecycles⟩] }

theorem emissions_noted (w : World) (e : Emission) : (w.noted e).emissions = w.emissions ++ [e] := by
  simp [emissions, noted, Emission.ofCall?_toCall]

/-- All functions that the fields of pipelines call are among `fs`. -/
def Calls (fs : FieldFunction → Prop) (w : World) : Prop :=
  ∀ n p, w.pipelines.get? n = some p → ∀ phase, ∀ f ∈ functionsOf (p.config.phase phase), fs f

end World

/-- A core that takes note of calls with records. -/
def LoggingCore.watched (c : LoggingCore) : LoggingCore :=
  { c with
    writeStaticFields := fun record w => c.writeStaticFields record (w.noted (.overriding record))
    sendLog := fun level record => do
      Act.note (Emission.sending level record).toCall
      c.sendLog level record }

/-- Surroundings whose cores take note of calls with records. -/
def Surroundings.watched (env : Surroundings) : Surroundings := { env with core := fun id => (env.core id).watched }

/-! ## States of the same logs -/

variable {fs : FieldFunction → Prop} {busy : Option Nat} {w w' w'' : World}

/-- Pipelines stay, and call no other functions; logs stay, but for their records and for the state of a busy one. -/
structure Steady (fs : FieldFunction → Prop) (busy : Option Nat) (w w' : World) : Prop where
  pipelines : ∀ n p, w.pipelines.get? n = some p → w'.pipelines.get? n = some p
  calls : w.Calls fs → w'.Calls fs
  lifecycles : ∀ n l, w.lifecycles.get? n = some l → ∃ record state,
    w'.lifecycles.get? n = some { l with record, state } ∧ (busy ≠ some n → state = l.state)

/-- Steady, and no record has been handed over. -/
structure Quiet (fs : FieldFunction → Prop) (busy : Option Nat) (w w' : World) : Prop extends Steady fs busy w w' where
  emissions : w'.emissions = w.emissions

namespace Steady

theorem of_same (hp : w'.pipelines = w.pipelines) (hl : w'.lifecycles = w.lifecycles) : Steady fs busy w w' := by
  refine ⟨fun n p h => by rw [hp, h], fun h => ?_, fun n l h => ⟨l.record, l.state, by rw [hl, h], fun _ => rfl⟩⟩
  unfold World.Calls at h ⊢
  rwa [hp]

protected theorem trans (h : Steady fs busy w w') (h' : Steady fs busy w' w'') : Steady fs busy w w'' := by
  refine ⟨fun n p hp => h'.pipelines n p (h.pipelines n p hp), fun hc => h'.calls (h.calls hc), fun n l hl => ?_⟩
  obtain ⟨record, state, hl', hs⟩ := h.lifecycles n l hl
  obtain ⟨record', state', hl'', hs'⟩ := h'.lifecycles n _ hl'
  exact ⟨record', state', hl'', fun hn => (hs' hn).trans (hs hn)⟩

instance : IsPreorder World (Steady fs busy) where
  refl _ := of_same rfl rfl
  trans _ _ _ := Steady.trans

/-- Who is steady with nothing busy is so with anything busy. -/
theorem mono (h : Steady fs none w w') : Steady fs busy w w' :=
  ⟨h.pipelines, h.calls, fun n l hl => (h.lifecycles n l hl).imp fun _ => .imp fun _ hs =>
    ⟨hs.1, fun _ => hs.2 (Option.some_ne_none _).symm⟩⟩

/-- What is done to a log that was not there before is of no matter. -/
theorem forget {id : Nat} (hid : w.lifecycles.get? id = none) (h : Steady fs (some id) w w') : Steady fs none w w' := by
  refine ⟨h.pipelines, h.calls, fun n l hl => ?_⟩
  obtain ⟨record, state, hl', hs⟩ := h.lifecycles n l hl
  refine ⟨record, state, hl', fun _ => hs ?_⟩
  rintro ⟨rfl⟩
  rw [hid] at hl
  cases hl

/-- A log gets another record and another state. -/
theorem of_set {id : Nat} {l : Lifecycle} (hp : w'.pipelines = w.pipelines)
    (hl : w'.lifecycles = w.lifecycles.set id l)
    (h : ∀ l₀, w.lifecycles.get? id = some l₀ → ∃ record state, l = { l₀ with record, state }) :
    Steady fs (some id) w w' := by
  refine ⟨fun n p h => by rw [hp, h], fun hc => by unfold World.Calls at hc ⊢; rwa [hp], fun n l₀ hl₀ => ?_⟩
  rw [hl, Table.get?_set]
  by_cases hn : n = id
  · subst hn
    obtain ⟨record, state, rfl⟩ := h l₀ hl₀
    exact ⟨record, state, by rw [if_pos rfl, hl₀]; rfl, fun hb => absurd rfl hb⟩
  · exact ⟨l₀.record, l₀.state, by rw [if_neg hn, hl₀], fun _ => rfl⟩

theorem addLifecycle (l : Lifecycle) : Steady fs busy w { w with lifecycles := w.lifecycles.add l } := by
  refine ⟨fun _ _ hp => hp, fun hc => hc, fun n l₀ hl => ⟨l₀.record, l₀.state, ?_, fun _ => rfl⟩⟩
  exact Table.get?_add_of_eq_some hl l

theorem withRecord (id : Nat) (record : Record) : Steady fs busy w (w.withRecord id record) := by
  refine ⟨fun _ _ hp => hp, fun hc => hc, fun n l hl => ?_⟩
  have hmod : (w.withRecord id record).lifecycles.get? n = some (if id = n then { l with record } else l) := by
    refine (Table.get?_modify _ _ _ _).trans ?_
    rw [hl]
    split <;> rfl
  split at hmod
  · exact ⟨record, l.state, hmod, fun _ => rfl⟩
  · exact ⟨l.record, l.state, hmod, fun _ => rfl⟩

theorem note (w : World) (e : Emission) : Steady fs busy w (w.noted e) := of_same rfl rfl

end Steady

namespace Quiet

theorem of_same (hp : w'.pipelines = w.pipelines) (hl : w'.lifecycles = w.lifecycles) (hc : w'.calls = w.calls) :
    Quiet fs busy w w' := ⟨Steady.of_same hp hl, by unfold World.emissions; rw [hc]⟩

instance : IsPreorder World (Quiet fs busy) where
  refl _ := of_same rfl rfl rfl
  trans _ _ _ h h' := ⟨h.toSteady.trans h'.toSteady, h'.emissions.trans h.emissions⟩

theorem mono (h : Quiet fs none w w') : Quiet fs busy w w' := ⟨h.toSteady.mono, h.emissions⟩

theorem withRecord (id : Nat) (record : Record) : Quiet fs busy w (w.withRecord id record) :=
  ⟨Steady.withRecord id record, rfl⟩

theorem setLifecycle {id : Nat} {l : Lifecycle}
    (h : ∀ l₀, w.lifecycles.get? id = some l₀ → ∃ record state, l = { l₀ with record, state }) :
    Quiet fs (some id) w { w with lifecycles := w.lifecycles.set id l } := ⟨Steady.of_set rfl rfl h, rfl⟩

theorem host {id : Nat} (w : World) (h : Host) : Quiet fs busy w { w with hosts := w.hosts.set id h } :=
  of_same rfl rfl rfl

theorem diagnostics (w : World) (ds : List Diagnostic) : Quiet fs busy w { w with diagnostics := ds } :=
  of_same rfl rfl rfl

theorem writeField (target : Nat) (name : String) (v : Value) :
    Act.Keeps (Quiet fs busy) (Act.writeField target name v) := Act.Keeps.writeField host diagnostics name v

end Quiet

/-! ## Hooks that leave logs alone -/

/-- Hooks and functions of `fs` leave logs alone: none of them starts to walk a log on, takes pipelines away or hands
records over. They may fail, write records, start further logs, and change anything else. -/
structure Surroundings.Discreet (env : Surroundings) (fs : FieldFunction → Prop) : Prop where
  initLog : ∀ c, Act.Keeps (Quiet fs none) (env.core c).initLog
  bindLogFunctions : ∀ c target, Act.Keeps (Quiet fs none) ((env.core c).bindLogFunctions target)
  writeStaticFields : ∀ c record w, Quiet fs none w ((env.core c).writeStaticFields record w).2.2
  sendLog : ∀ c level record, Act.Keeps (Quiet fs none) ((env.core c).sendLog level record)
  setLoggingLevel : ∀ c level, Act.Keeps (Quiet fs none) ((env.core c).setLoggingLevel level)
  setLogPattern : ∀ c pattern, Act.Keeps (Quiet fs none) ((env.core c).setLogPattern pattern)
  overrideField : ∀ c name value, Act.Keeps (Quiet fs none) ((env.core c).overrideField name value)
  logMessage : ∀ c level message fields, Act.Keeps (Quiet fs none) ((env.core c).logMessage level message fields)
  call : ∀ parties f, fs f → ∀ record w, Quiet fs none w (env.call parties f record w).2.2

end ActivityLog
