import ActivityLog.Proofs.Lifecycle.Emission

/-!
# What a step may touch

A step of an application concerns some hosts, perhaps a log, and perhaps the overrides of a core. `Confined s`: a step
has left alone all hosts, logs and overrides outside of its scope `s`, and the pipelines. `Still s`: it has not handed a
record over, either, and concerns no log.
-/

namespace ActivityLog

/-- The overrides of a structured core. -/
def World.overridesOf? (w : World) (core : Nat) : Option Record :=
  match w.cores.get? core with
  | some (.structured c) => some c.overrides
  | _ => none

theorem World.overridesOf?_of_structured {w : World} {core : Nat} {c : StructuredCore}
    (hc : w.cores.get? core = some (.structured c)) : w.overridesOf? core = some c.overrides := by
  unfold overridesOf?
  rw [hc]

theorem World.structured_of_overridesOf? {w : World} {core : Nat} {overrides : Record}
    (h : w.overridesOf? core = some overrides) :
    ∃ c, w.cores.get? core = some (.structured c) ∧ c.overrides = overrides := by
  unfold World.overridesOf? at h
  split at h
  · next c hc => exact ⟨c, hc, Option.some.inj h⟩
  · cases h

/-- What a step concerns: hosts, a log, the overrides of a core. -/
structure Scope where
  hosts : List Nat := []
  log : Option Nat := none
  core : Option Nat := none

/-- All but the scope is left alone. -/
structure Confined (s : Scope) (w w' : World) : Prop where
  hosts : ∀ n, n ∉ s.hosts → w'.hosts.get? n = w.hosts.get? n
  lifecycles : ∀ n, s.log ≠ some n → w'.lifecycles.get? n = w.lifecycles.get? n
  pipelines : w'.pipelines = w.pipelines
  overrides : ∀ n, s.core ≠ some n → w'.overridesOf? n = w.overridesOf? n

variable {s : Scope} {fs : FieldFunction → Prop} {w w' w'' : World}

namespace Confined

theorem of_same (hh : w'.hosts = w.hosts) (hl : w'.lifecycles = w.lifecycles) (hp : w'.pipelines = w.pipelines)
    (hc : w'.cores = w.cores) : Confined s w w' := by
  refine ⟨fun n _ => by rw [hh], fun n _ => by rw [hl], hp, fun n _ => ?_⟩
  unfold World.overridesOf?
  rw [hc]

protected theorem trans (h : Confined s w w') (h' : Confined s w' w'') : Confined s w w'' where
  hosts n hn := (h'.hosts n hn).trans (h.hosts n hn)
  lifecycles n hn := (h'.lifecycles n hn).trans (h.lifecycles n hn)
  pipelines := h'.pipelines.trans h.pipelines
  overrides n hn := (h'.overrides n hn).trans (h.overrides n hn)

instance : IsPreorder World (Confined s) where
  refl _ := of_same rfl rfl rfl rfl
  trans _ _ _ := Confined.trans

/-- What is confined to some hosts is so to a wider scope. -/
theorem widen {hosts : List Nat} (h : Confined { hosts } w w') (hh : hosts ⊆ s.hosts) : Confined s w w' where
  hosts n hn := h.hosts n fun hs => hn (hh hs)
  lifecycles n _ := h.lifecycles n (Option.some_ne_none n).symm
  pipelines := h.pipelines
  overrides n _ := h.overrides n (Option.some_ne_none n).symm

theorem host {n : Nat} (hn : n ∈ s.hosts) (w : World) (h : Host) :
    Confined s w { w with hosts := w.hosts.set n h } where
  hosts m hm := by
    rw [Table.get?_set, if_neg]
    rintro rfl
    exact hm hn
  lifecycles _ _ := rfl
  pipelines := rfl
  overrides _ _ := rfl

theorem diagnostics (w : World) (ds : List Diagnostic) : Confined s w { w with diagnostics := ds } :=
  of_same rfl rfl rfl rfl

theorem setLifecycle {id : Nat} (hid : s.log = some id) (w : World) (l : Lifecycle) :
    Confined s w { w with lifecycles := w.lifecycles.set id l } where
  hosts _ _ := rfl
  lifecycles n hn := by
    rw [Table.get?_set, if_neg]
    rintro rfl
    exact hn hid
  pipelines := rfl
  overrides _ _ := rfl

/-- A new log is confined to its number. -/
theorem addLifecycle (hid : s.log = some w.lifecycles.next) (l : Lifecycle) :
    Confined s w { w with lifecycles := w.lifecycles.add l } where
  hosts _ _ := rfl
  lifecycles n hn := by
    rw [Table.get?_add, if_neg]
    rintro rfl
    exact hn hid
  pipelines := rfl
  overrides _ _ := rfl

theorem withRecord {id : Nat} (hid : s.log = some id) (w : World) (record : Record) :
    Confined s w (w.withRecord id record) where
  hosts _ _ := rfl
  lifecycles n hn := by
    have hne : id ≠ n := fun he => hn (he ▸ hid)
    exact (Table.get?_modify _ _ _ _).trans (if_neg hne)
  pipelines := rfl
  overrides _ _ := rfl

theorem noted (w : World) (e : Emission) : Confined s w (w.noted e) := of_same rfl rfl rfl rfl

/-- A core without overrides that change. -/
theorem setCore {id : Nat} {c : CoreData} (hc : s.core = some id ∨
    ({ w with cores := w.cores.set id c } : World).overridesOf? id = w.overridesOf? id) :
    Confined s w { w with cores := w.cores.set id c } where
  hosts _ _ := rfl
  lifecycles _ _ := rfl
  pipelines := rfl
  overrides n hn := by
    by_cases hid : n = id
    · subst hid
      exact hc.resolve_left hn
    · unfold World.overridesOf?
      dsimp only
      rw [Table.get?_set, if_neg hid]

end Confined

/-- Confined to a scope without a log, and no record has been handed over. -/
structure Still (s : Scope) (w w' : World) : Prop extends Confined s w w' where
  logs : ∀ n, w'.lifecycles.get? n = w.lifecycles.get? n
  emissions : w'.emissions = w.emissions

namespace Still

theorem of_same (hh : w'.hosts = w.hosts) (hl : w'.lifecycles = w.lifecycles) (hp : w'.pipelines = w.pipelines)
    (hc : w'.cores = w.cores) (he : w'.calls = w.calls) : Still s w w' :=
  ⟨Confined.of_same hh hl hp hc, fun n => by rw [hl], by unfold World.emissions; rw [he]⟩

instance : IsPreorder World (Still s) where
  refl _ := of_same rfl rfl rfl rfl rfl
  trans _ _ _ h h' :=
    ⟨h.toConfined.trans h'.toConfined, fun n => (h'.logs n).trans (h.logs n), h'.emissions.trans h.emissions⟩

theorem host {n : Nat} (hn : n ∈ s.hosts) (w : World) (h : Host) : Still s w { w with hosts := w.hosts.set n h } :=
  ⟨Confined.host hn w h, fun _ => rfl, rfl⟩

/-- A look at a host. -/
theorem look {n : Nat} (hn : n ∈ s.hosts) (w : World) (name : String) : Still s w (w.look n name) where
  hosts m hm := by
    have hne : n ≠ m := fun he => hm (he ▸ hn)
    exact (Table.get?_modify _ _ _ _).trans (if_neg hne)
  lifecycles _ _ := rfl
  pipelines := rfl
  overrides _ _ := rfl
  logs _ := rfl
  emissions := rfl

theorem diagnostics (w : World) (ds : List Diagnostic) : Still s w { w with diagnostics := ds } :=
  of_same rfl rfl rfl rfl rfl

theorem setCore {id : Nat} {c : CoreData} (hc : s.core = some id ∨
    ({ w with cores := w.cores.set id c } : World).overridesOf? id = w.overridesOf? id) :
    Still s w { w with cores := w.cores.set id c } := ⟨Confined.setCore hc, fun _ => rfl, rfl⟩

theorem adapter {n : Nat} (hn : n ∈ s.hosts) : Act.Keeps (Still s) (Act.adapter n) := Act.Keeps.adapter (host hn)

theorem writeField {n : Nat} (hn : n ∈ s.hosts) (name : String) (v : Value) :
    Act.Keeps (Still s) (Act.writeField n name v) := Act.Keeps.writeField (host hn) diagnostics name v

theorem onCompletion {a : Adapter} (ha : a.target ∈ s.hosts) (l : Listener) :
    Act.Keeps (Still s) (Act.onCompletion a l) := Act.Keeps.onCompletion (host ha) diagnostics rfl l

/-- The table of logs is the same. -/
theorem lifecycles_eq (h : Still s w w') : w'.lifecycles = w.lifecycles := by
  have hrows : w'.lifecycles.rows = w.lifecycles.rows := List.ext_getElem? h.logs
  cases hw : w'.lifecycles
  cases hw' : w.lifecycles
  simpa [hw, hw'] using hrows

/-- Steps that are still leave logs alone. -/
theorem quiet (h : Still s w w') : Quiet fs none w w' where
  pipelines n p hp := by rw [h.pipelines, hp]
  calls hc := by
    unfold World.Calls at hc ⊢
    rwa [h.pipelines]
  lifecycles n l hl := ⟨l.record, l.state, by rw [h.logs, hl], fun _ => rfl⟩
  emissions := h.emissions

end Still

end ActivityLog
