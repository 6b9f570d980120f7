import ActivityLog.Proofs.Lifecycle.Completion

/-!
# What the walk of a log keeps

A log is walked in steps that look at hosts, take notes, change the log and its record, and call field functions
(`Surroundings.Frames`), in calls of hooks, and in steps that store on hosts and register with them. What the first of
these keep is kept by the passes, and with the hooks of completion by handing the record over
(`Surroundings.Frames.released`). What all of them keep is kept by an arrival (`Surroundings.Frames.start`) and by a
completion (`Surroundings.Frames.complete`).
-/

namespace ActivityLog

open Act

/-- A relation of states that is kept by whatever a log is walked with but hooks, and writes to hosts: looks at hosts,
notes, logs and their records, and functions of `fs`. -/
structure Surroundings.Frames (env : Surroundings) (fs : FieldFunction → Prop) (R : World → World → Prop) : Prop where
  seen : ∀ id w h name, w.hosts.get? id = some h → R w { w with hosts := w.hosts.set id (h.seen name) }
  diagnostics : ∀ w ds, R w { w with diagnostics := ds }
  setLog : ∀ id w l, R w { w with lifecycles := w.lifecycles.set id l }
  addLog : ∀ w l, R w { w with lifecycles := w.lifecycles.add l }
  withRecord : ∀ id record w, R w (w.withRecord id record)
  noted : ∀ e w, R w (w.noted e)
  call : ∀ parties f, fs f → ∀ record w, R w (env.call parties f record w).2.2

variable {env : Surroundings} {fs : FieldFunction → Prop} {R : World → World → Prop} {w : World} {id : Nat}
  {l : Lifecycle} {p : Pipeline} {phase : Phase}

namespace Surroundings.Frames

/-- What keeps more keeps less. -/
theorem mono {S : World → World → Prop} (h : env.Frames fs R) (hsub : ∀ w w', R w w' → S w w') :
    env.Frames fs S where
  seen id w v name hv := hsub _ _ (h.seen id w v name hv)
  diagnostics w ds := hsub _ _ (h.diagnostics w ds)
  setLog id w l := hsub _ _ (h.setLog id w l)
  addLog w l := hsub _ _ (h.addLog w l)
  withRecord id record w := hsub _ _ (h.withRecord id record w)
  noted e w := hsub _ _ (h.noted e w)
  call parties f hf record w := hsub _ _ (h.call parties f hf record w)

variable [IsPreorder World R] (h : env.Frames fs R)

include h

/-! ## Looks at hosts -/

/-- A look at a host that may be missing. -/
theorem look (id : Nat) (w : World) (name : String) :
    R w { w with hosts := w.hosts.set id ((w.hostOf id).seen name) } := by
  cases hh : w.hosts.get? id with
  | none =>
    rw [Table.set_of_get?_eq_none hh]
    exact refl_of R w
  | some host =>
    have hof : w.hostOf id = host := by rw [World.hostOf, hh]; rfl
    rw [hof]
    exact h.seen id w host name hh

/-- A header is read with a look at the host, or without. -/
theorem looked (a : Adapter) (w : World) :
    R w { w with hosts := w.hosts.set a.target (a.looked (w.hostOf a.target)) } := by
  unfold Adapter.looked
  split
  · exact h.look a.target w "headers"
  · cases hh : w.hosts.get? a.target with
    | none =>
      rw [Table.set_of_get?_eq_none hh]
      exact refl_of R w
    | some host =>
      have hof : w.hostOf a.target = host := by rw [World.hostOf, hh]; rfl
      rw [hof, Table.set_self hh]
      exact refl_of R w

theorem adapter (n : Nat) : Keeps R (Act.adapter n) := by
  have hlook : Keeps R (Act.look n "headers") := by
    intro w
    cases hh : w.hosts.get? n with
    | none =>
      obtain ⟨f, hf⟩ := perform_host_none hh
      have hnone : (Act.look n "headers").perform w = (.error f, w) := perform_bind_error hf _
      rw [hnone]
      exact refl_of R w
    | some host =>
      rw [perform_look hh]
      exact h.seen n w host _ hh
  refine Keeps.bind (Keeps.host n) fun host => ?_
  dsimp only
  split
  · exact Keeps.bind hlook fun _ => Keeps.ofExcept _
  · exact Keeps.bind (Keeps.host n) fun _ => Keeps.ofExcept _

/-! ## Passes -/

theorem surface {ds : List Descriptor} (hds : ∀ f ∈ functionsOf ds, fs f) (request response : Adapter)
    (log : Option Nat) (w : World) : (env.surface request response log).Keeps (R w) (functionsOf ds) where
  header _ _ s hs := trans_of R hs (h.looked _ s)
  field _ _ s hs := trans_of R hs (h.look _ s _)
  call f hf record s hs := by
    refine trans_of R hs ?_
    cases log with
    | none => exact h.call _ f (hds f hf) record s
    | some id => exact trans_of R (h.withRecord id record s) (h.call _ f (hds f hf) record _)
  heard s hs := trans_of R hs (h.diagnostics s _)

theorem afterPass {config : FieldConfig} (hds : ∀ f ∈ functionsOf (config.phase phase), fs f) (id : Nat)
    (l : Lifecycle) (w : World) : R w (l.afterPass env id phase config w) :=
  trans_of R ((h.surface hds l.request l.response (some id) w).resolvePass phase l.record (refl_of R w))
    (h.diagnostics _ _)

/-- The state that a pass of a log leaves behind. -/
theorem resolved (hw : w.Calls fs) (hp : w.pipelines.get? l.pipeline = some p) (id : Nat) (phase : Phase) :
    R w (l.resolved env id phase p w) :=
  trans_of R (h.afterPass (hw _ p hp phase) id l w) (h.setLog id _ _)

theorem resolvePre (hw : w.Calls fs) (id : Nat) : R w ((Lifecycle.resolvePre env.watched id).perform w).2 := by
  refine lifecycle_bind_cases (refl_of R w) fun l hl => ?_
  refine pipeline_bind_cases (refl_of R w) fun p hp => ?_
  exact h.resolved hw hp id .pre

/-! ## Arrivals -/

section Hosts

variable (host : ∀ id w h, R w { w with hosts := w.hosts.set id h })
include host

theorem writeField (n : Nat) (name : String) (v : Value) : Keeps R (Act.writeField n name v) :=
  Keeps.writeField (host n) h.diagnostics name v

theorem awaitCompletion (id : Nat) : Keeps R (Lifecycle.awaitCompletion id) := by
  refine Keeps.bind (Keeps.lifecycle id) fun l => ?_
  refine Keeps.bind (Keeps.onCompletion (host l.response.target) h.diagnostics rfl _) fun _ => ?_
  exact Keeps.bind (Keeps.lifecycle id) fun l => Keeps.bind (fun w => h.setLog id w _) fun _ => Keeps.pure _

section Arrival

variable (hbind : ∀ c target, Keeps R ((env.core c).bindLogFunctions target))
include hbind

theorem arrive (hw : w.Calls fs) (id : Nat) : R w ((Pipeline.arrive env.watched id).perform w).2 := by
  refine Keeps.bind_of w (h.resolvePre hw id) fun _ _ => ?_
  refine Keeps.bind (R := R) (Keeps.lifecycle id) (fun l => ?_) _
  refine Keeps.bind (h.writeField host _ _ _) fun _ => ?_
  exact Keeps.bind (Keeps.pipeline _) fun p => hbind p.core _

theorem begin (hw : w.Calls fs) (id : Nat) : R w ((Pipeline.begin env.watched id).perform w).2 := by
  obtain ⟨ds, hafter⟩ := (Pipeline.arrive env.watched id).after_eq .preResolutionFailed w
  have harrive := h.arrive host hbind hw id
  rw [Pipeline.perform_begin, hafter]
  refine trans_of R (trans_of R harrive (h.diagnostics _ ds)) ?_
  exact Keeps.bind (h.awaitCompletion host id) (fun _ => Keeps.pure id) _

/-- **An arrival keeps what its steps keep**, and the core's hooks of arrival, if no further functions come to be
called. -/
theorem start (hinit : ∀ c, Keeps R (env.core c).initLog) (hcalls : ∀ w w', R w w' → w.Calls fs → w'.Calls fs)
    (hw : w.Calls fs) (pipeline request response : Nat) :
    R w ((Pipeline.start env.watched pipeline request response).perform w).2 := by
  have hinit' (c : Nat) : Keeps R (env.watched.core c).initLog := hinit c
  rcases Pipeline.start_cases (h.adapter request) (h.adapter response) env.watched pipeline w with
    ⟨-, hkept⟩ | ⟨a, b, _, v, -, -, -, -, hkept, hstart⟩
  · exact hkept
  rw [hstart]
  rcases Pipeline.startWith_cases hinit' pipeline a b v with ⟨-, hkept'⟩ | ⟨p, record, u, -, hkept', hbegin⟩
  · exact trans_of R hkept hkept'
  · have hopened := trans_of R (trans_of R hkept hkept') (h.addLog u ⟨pipeline, a, b, record, .created⟩)
    rw [hbegin]
    exact trans_of R hopened (h.begin host hbind (hcalls _ _ hopened hw) _)

end Arrival

end Hosts

/-! ## Completions -/

section Completion

variable (hwrite : ∀ c record w, R w ((env.core c).writeStaticFields record w).2.2)
  (hsend : ∀ c level record, Keeps R ((env.core c).sendLog level record))
include hwrite hsend

theorem emit (p : Pipeline) (id : Nat) (record : Record) (w : World) :
    R w ((Lifecycle.emit env.watched p (some id) record).run w).2 := by
  have hnoted := trans_of R (h.noted (.overriding record) w) (hwrite p.core record (w.noted (.overriding record)))
  have hwatched : (env.watched.core p.core).writeStaticFields record w =
      (env.core p.core).writeStaticFields record (w.noted (.overriding record)) := rfl
  rw [Lifecycle.run_emit, hwatched]
  rcases hr : (env.core p.core).writeStaticFields record (w.noted (.overriding record)) with ⟨f | u, record', v⟩ <;>
    rw [hr] at hnoted
  · exact trans_of R hnoted (h.withRecord id record' v)
  · have hsent : R _ (((env.watched.core p.core).sendLog p.level record').perform (v.withRecord id record')).2 :=
      trans_of R (h.noted (.sending p.level record') _) (hsend p.core p.level record' _)
    exact trans_of R (trans_of R hnoted (h.withRecord id record' v)) hsent

theorem released (hw : w.Calls fs) (hp : w.pipelines.get? l.pipeline = some p) (id : Nat) :
    R w (l.released env.watched id p w) := by
  have hresolved : R w (l.resolved env.watched id .post p w) := h.resolved hw hp id .post
  have hemitted := trans_of R hresolved (h.emit hwrite hsend p id (l.passed env.watched id .post p.config w).record _)
  unfold Lifecycle.released
  exact trans_of R (trans_of R hemitted (h.setLog id _ _)) (h.diagnostics _ _)

/-- **A completion keeps what its steps keep**, and the core's hooks of completion. -/
theorem complete (host : ∀ id w h, R w { w with hosts := w.hosts.set id h }) (hw : w.Calls fs) (id : Nat) :
    R w ((Lifecycle.complete env.watched id).perform w).2 := by
  refine Lifecycle.complete_cases id (refl_of R w) (h.diagnostics w) fun l p _ hp => ?_
  exact trans_of R (h.released hwrite hsend hw hp id) (h.writeField host _ _ _ _)

end Completion

end Surroundings.Frames

end ActivityLog
