import ActivityLog.Application
import ActivityLog.Proofs.Host.Touch
import ActivityLog.Proofs.Lifecycle.Scope

/-!
# Logging aside

Writing lines, drawing contexts and changing how lines are written leaves the hosts, logs, pipelines, cores and facades
of an application alone (`Aside`). Putting a context on a request concerns that request only, and only touches it
(`StructuredCore.keeps_bindLogFunctions`). What an application's cores keep whatever they are asked for is said for any
relation of states (`Standard.keeps_sendLog` and its companions). So they are still (`Standard.still_sendLog` and its
companions), and discreet (`Standard.discreet`).
-/

namespace ActivityLog

open Act

/-- The fields that a core has of its own. -/
def CoreData.fields : CoreData → FieldConfig
  | .recording c => c.config
  | .structured c => c.config

/-- The same hosts, logs, pipelines, cores and facades, and no further calls noted. -/
structure Aside (w w' : World) : Prop where
  hosts : w'.hosts = w.hosts
  lifecycles : w'.lifecycles = w.lifecycles
  pipelines : w'.pipelines = w.pipelines
  cores : w'.cores = w.cores
  facades : w'.facades = w.facades
  ownFacade : w'.ownFacade = w.ownFacade
  calls : w'.calls = w.calls

instance : IsPreorder World Aside where
  refl _ := ⟨rfl, rfl, rfl, rfl, rfl, rfl, rfl⟩
  trans _ _ _ h h' := ⟨h'.hosts.trans h.hosts, h'.lifecycles.trans h.lifecycles, h'.pipelines.trans h.pipelines,
    h'.cores.trans h.cores, h'.facades.trans h.facades, h'.ownFacade.trans h.ownFacade, h'.calls.trans h.calls⟩

namespace Logger

section Lines

variable {R : World → World → Prop} [IsPreorder World R] (lines : ∀ w ls, R w { w with lines := ls })
include lines

theorem keeps_deliver (line : Line) (stages : List (Bool × List Value)) : Keeps R (deliver line stages) := by
  induction stages with
  | nil => exact Keeps.pure _
  | cons stage rest ih =>
    obtain ⟨kept, handlers⟩ := stage
    unfold deliver
    dsimp only
    by_cases hk : kept = true
    · rw [if_pos hk]
      refine Keeps.bind (Keeps.modify fun w => lines w _) fun _ => ?_
      split
      · exact Keeps.throw _
      · exact ih
    · rw [if_neg hk]
      split
      · exact Keeps.throw _
      · exact ih

theorem keeps_emit (logger : String) (level : Level) (event : Record) (chain : Option Chain) :
    Keeps R (emit logger level event chain) := by
  unfold emit
  refine Keeps.bind Keeps.get fun w => ?_
  split
  · exact Keeps.bind (Keeps.ofExcept _) fun _ => Keeps.pure _
  · split
    · refine Keeps.bind (Keeps.ofExcept _) fun finished => ?_
      refine Keeps.bind (Keeps.ofExcept _) fun text => ?_
      exact keeps_deliver lines _ _
    · exact Keeps.pure _

theorem keeps_write (logger : String) (bound : Record) (level : Level) (event : Value) (fields : Record)
    (chain : Option Chain) : Keeps R (write logger bound level event fields chain) :=
  Keeps.bind Keeps.get fun _ => Keeps.bind (Keeps.ofExcept _) fun _ => keeps_emit lines _ _ _ _

/-- **Logging fields writes lines** and does nothing else. -/
theorem keeps_logFields (logger : String) (level : Level) (event : String) (fields : Record) (chain : Option Chain) :
    Keeps R (logFields logger level event fields chain) :=
  Keeps.bind (Keeps.ofExcept _) fun _ => keeps_write lines _ _ _ _ _ _

end Lines

theorem aside_lines (w : World) (ls : List Line) : Aside w { w with lines := ls } := ⟨rfl, rfl, rfl, rfl, rfl, rfl, rfl⟩

theorem aside_call (logger : String) (bound : Record) (method : LogMethod) (message : Value) (fields : Record) :
    Keeps Aside (call logger bound method message fields) := by
  unfold call
  refine Keeps.bind (Keeps.ofExcept _) fun _ => ?_
  refine Keeps.bind Keeps.get fun w => ?_
  have hwrite (level : Level) (event : Value) (fields : Record) :
      Keeps Aside (write logger bound level event fields) := keeps_write aside_lines _ _ _ _ _ _
  dsimp only
  cases method.effect with
  | write level => exact hwrite _ _ _
  | writeAt =>
    dsimp only
    split
    · split
      · exact Keeps.pure _
      · refine Keeps.check ?_ _ _
        split
        · exact hwrite _ _ _
        · exact Keeps.throw _
      · exact Keeps.throw_bind _ _
    · refine Keeps.check ?_ _ _
      split
      · exact hwrite _ _ _
      · exact Keeps.throw _
  | writeAs =>
    refine Keeps.check ?_ _ _
    split
    · next level _ =>
      cases level with
      | none => exact Keeps.pure _
      | some l => exact keeps_emit aside_lines _ _ _ _
    · exact Keeps.throw _
  | unbind => exact Keeps.check (Keeps.ite (Keeps.throw _) (Keeps.pure _)) _ _
  | ask => exact Keeps.check (Keeps.ite (Keeps.throw _) (Keeps.pure _)) _ _
  | setLevel =>
    refine Keeps.bind (Keeps.ofExcept _) fun n => Keeps.modify fun w => ?_
    unfold setThreshold
    split <;> exact ⟨rfl, rfl, rfl, rfl, rfl, rfl, rfl⟩
  | changeHandlers => exact Keeps.modify fun w => ⟨rfl, rfl, rfl, rfl, rfl, rfl, rfl⟩
  | child =>
    dsimp only
    split
    · exact Keeps.pure _
    · exact Keeps.throw _
  | handle => exact Keeps.throw _
  | idle => exact Keeps.pure _

end Logger

namespace Act

theorem aside_configureLogging (level : String) (layout : Layout) : Keeps Aside (configureLogging level layout) := by
  refine Keeps.bind Keeps.get fun w => ?_
  dsimp only
  refine Keeps.bind (Keeps.modify fun _ => ⟨rfl, rfl, rfl, rfl, rfl, rfl, rfl⟩) fun _ => ?_
  exact Keeps.bind (Keeps.ofExcept _) fun _ => Keeps.modify fun _ => ⟨rfl, rfl, rfl, rfl, rfl, rfl, rfl⟩

theorem aside_loggingState : Keeps Aside loggingState := by
  refine Keeps.bind Keeps.get fun w => ?_
  split
  · exact Keeps.pure _
  · refine Keeps.bind (aside_configureLogging _ _) fun _ => ?_
    exact Keeps.bind Keeps.get fun _ => Keeps.row _ _

theorem aside_setLoggingLevel (level : String) : Keeps Aside (setLoggingLevel level) := by
  refine Keeps.bind aside_loggingState fun s => ?_
  dsimp only
  exact Keeps.bind (Keeps.modify fun _ => ⟨rfl, rfl, rfl, rfl, rfl, rfl, rfl⟩) fun _ => Keeps.ofExcept _

theorem aside_setLogPattern (pattern : Value) : Keeps Aside (setLogPattern pattern) :=
  Keeps.bind aside_loggingState fun _ => Keeps.modify fun _ => ⟨rfl, rfl, rfl, rfl, rfl, rfl, rfl⟩

theorem aside_drawId : Keeps Aside drawId := fun _ => ⟨rfl, rfl, rfl, rfl, rfl, rfl, rfl⟩

theorem aside_startRequest (given : Value) (attributes : OrderedMap Value) :
    Keeps Aside (startRequest given attributes) := by
  refine Keeps.bind (Keeps.ofExcept _) fun _ => ?_
  refine Keeps.bind aside_drawId fun fresh => ?_
  refine Keeps.get_bind fun w => ?_
  have hset (correlationId : String) : Aside w ((do
      set { w with contexts := w.contexts.activate { correlationId := .text correlationId, attributes } }
      return w.contexts.table.next : Act Nat).perform w).2 := ⟨rfl, rfl, rfl, rfl, rfl, rfl, rfl⟩
  dsimp only
  split
  · cases hwritten : (w.reveal given).written with
    | error f => exact refl_of Aside w
    | ok text => exact hset text
  · exact hset fresh

theorem aside_context (id : Nat) : Keeps Aside (context id) := Keeps.bind Keeps.get fun _ => Keeps.row _ _

theorem aside_correlationContext : Keeps Aside correlationContext := by
  refine Keeps.bind Keeps.get fun w => ?_
  split
  · exact Keeps.pure _
  · refine Keeps.bind aside_drawId fun fresh => Keeps.get_bind fun w => ?_
    exact ⟨rfl, rfl, rfl, rfl, rfl, rfl, rfl⟩

end Act

theorem RequestContext.aside_logMessage (c : RequestContext) (level message : Value) (fields : Record) :
    Keeps Aside (c.logMessage level message fields) := by
  refine Keeps.bind (Keeps.ofExcept _) fun _ => ?_
  refine Keeps.bind (Keeps.ofExcept _) fun bound => ?_
  refine Keeps.bind (Keeps.ofExcept _) fun name => ?_
  refine Keeps.bind Keeps.get fun w => ?_
  dsimp only
  split
  · exact Logger.aside_call _ _ _ _ _
  · exact Keeps.ofExcept _
  · exact Logger.aside_call _ _ _ _ _

theorem Aside.still {s : Scope} {w w' : World} (h : Aside w w') : Still s w w' :=
  Still.of_same h.hosts h.lifecycles h.pipelines h.cores h.calls

/-! ## Putting a context on a request -/

namespace StructuredCore

section Bind

variable {R : World → World → Prop} [IsPreorder World R] {target : Nat} (aside : ∀ w w', Aside w w' → R w w')
  (stored : Keeps R (Act.readStored target recordField))
  (header : ∀ a : Adapter, a.target = target → Keeps R (Act.readHeader a correlationHeader))
include stored header

theorem keeps_broughtId {a : Adapter} (ha : a.target = target) : Keeps R (broughtId a) := by
  subst ha
  refine Keeps.bind stored fun _ => ?_
  refine Keeps.bind Keeps.get fun w => ?_
  have hgiven (known : Value) : Keeps R (do
      if (w.reveal known).truthy then return known else Act.readHeader a correlationHeader) :=
    Keeps.ite (Keeps.pure _) (header a rfl)
  dsimp only
  split
  · exact Keeps.bind (Keeps.ofExcept _) hgiven
  · exact Keeps.bind (Keeps.pure _) hgiven

include aside

/-- **Putting a context on a request** is looking at it, reading from it, and storing things under names of the core. -/
theorem keeps_bindLogFunctions (adapter : Keeps R (Act.adapter target))
    (store : ∀ name ∈ storedNames, ∀ v, Keeps R (Act.writeField target name v)) :
    Keeps R (bindLogFunctions target) := by
  refine Keeps.bind_result adapter fun a ha => ?_
  obtain ⟨_, ha⟩ := ha
  refine Keeps.bind (keeps_broughtId stored header (adapter_target ha)) fun _ => ?_
  refine Keeps.bind ((aside_startRequest _ _).mono aside) fun id => ?_
  refine Keeps.bind ((aside_context _).mono aside) fun context => ?_
  refine Keeps.bind (store _ (by decide) _) fun _ => ?_
  exact Keeps.bind (store _ (by decide) _) fun _ => store _ (by decide) _

end Bind

/-- Putting a context on a request concerns no other host. -/
theorem still_bindLogFunctions (target : Nat) : Keeps (Still { hosts := [target] }) (bindLogFunctions target) := by
  have hosts := Still.host (s := { hosts := [target] }) (List.mem_singleton.2 rfl)
  refine keeps_bindLogFunctions (fun _ _ => Aside.still) (Keeps.readStored hosts _) (fun a ha => ?_)
    (Still.adapter (List.mem_singleton.2 rfl)) fun name _ v => Still.writeField (List.mem_singleton.2 rfl) name v
  exact Keeps.readHeader hosts ha _

/-- Putting a context on a request only touches it. -/
theorem undisturbed_bindLogFunctions (target : Nat) : Keeps (Undisturbed target) (bindLogFunctions target) :=
  keeps_bindLogFunctions (fun _ _ h => Undisturbed.of_hosts (by rw [h.hosts])) (Undisturbed.readStored _)
    (fun _ ha => Undisturbed.readHeader ha _) Undisturbed.adapter fun _ hname v => Undisturbed.writeField hname v

/-- The chain that records go through is settled. -/
theorem still_useChain {s : Scope} {w : World} {id : Nat} {c : StructuredCore}
    (hc : w.cores.get? id = some (.structured c)) : Still s w ((useChain id c).perform w).2 := by
  refine Still.setCore (.inr ?_)
  simp only [World.overridesOf?, Table.get?_set_self hc, hc]

end StructuredCore

/-! ## What cores are asked for -/

namespace RecordingCore

/-- A call is noted, whether it fails or not. -/
theorem after_enter (c : RecordingCore) (call : String) (arguments : List Value) (w : World) :
    ((c.enter call arguments).perform w).2 =
      { w with calls := w.calls ++ [⟨.text call :: arguments, w.hosts, w.lifecycles⟩] } := by
  unfold enter
  cases c.failures.get? call <;> rfl

end RecordingCore

namespace Standard

variable (id : Nat)

theorem perform_current {d : CoreData} {w : World} {id : Nat} (hd : w.cores.get? id = some d) :
    (current id).perform w = (.ok (d.toCore id), w) := by
  unfold current
  rw [perform_bind_ok (perform_core hd), perform_pure]

theorem perform_current_none {w : World} {id : Nat} (hd : w.cores.get? id = none) :
    ∃ f, (current id).perform w = (.error f, w) := by
  obtain ⟨f, hf⟩ := perform_core_none hd
  exact ⟨f, perform_bind_error hf _⟩

/-- A structured core begins with an empty record. -/
theorem perform_initLog {w : World} {id : Nat} (hc : (w.overridesOf? id).isSome) :
    (core id).initLog.perform w = (.ok {}, w) := by
  obtain ⟨overrides, ho⟩ := Option.isSome_iff_exists.1 hc
  obtain ⟨c, hc, -⟩ := World.structured_of_overridesOf? ho
  unfold core
  dsimp only
  rw [perform_bind_ok (perform_current hc)]
  rfl

section Keeps

variable {R : World → World → Prop} [IsPreorder World R]

/-- What holds of all kinds of cores holds of the core with a number. -/
theorem keeps_current {α : Type} {x : LoggingCore → Act α}
    (h : ∀ (d : CoreData) w, w.cores.get? id = some d → R w ((x (d.toCore id)).perform w).2) :
    Keeps R (current id >>= x) := by
  unfold current
  rw [bind_assoc]
  exact Keeps.core_bind h

-- A recording core's notes are not those of a watch.
variable (notes : ∀ call, Emission.ofCall? call = none → Keeps R (Act.note call))
include notes

theorem keeps_enter (c : RecordingCore) {call : String} {arguments : List Value}
    (hcall : Emission.ofCall? (.text call :: arguments) = none) : Keeps R (c.enter call arguments) := by
  refine Keeps.bind (notes _ hcall) fun _ => ?_
  split
  · exact Keeps.throw _
  · exact Keeps.pure _

theorem keeps_initLog : Keeps R (core id).initLog := by
  refine keeps_current id fun d w _ => ?_
  cases d with
  | recording c => exact Keeps.bind (keeps_enter notes c rfl) (fun _ => Keeps.pure _) w
  | structured c => exact refl_of R w

theorem keeps_bindLogFunctions {target : Nat} (structured : Keeps R (StructuredCore.bindLogFunctions target)) :
    Keeps R ((core id).bindLogFunctions target) := by
  refine keeps_current id fun d w _ => ?_
  cases d with
  | recording c => exact keeps_enter notes c rfl w
  | structured c => exact structured w

theorem keeps_writeStaticFields (record : Record) (w : World) : R w ((core id).writeStaticFields record w).2.2 := by
  unfold core
  dsimp only
  cases w.cores.get? id with
  | none => exact refl_of R w
  | some d =>
    cases d with
    | structured c => exact refl_of R w
    | recording c =>
      have henter : R w ((c.enter "write_static_fields" []).perform w).2 := keeps_enter notes c rfl w
      unfold perform at henter
      dsimp only [CoreData.toCore, RecordingCore.toCore]
      rcases hr : (c.enter "write_static_fields" []).run.run w with ⟨f | u, w'⟩ <;> rw [hr] at henter
      · exact henter
      · exact henter

/-- A structured core settles the chain that its records go through, and writes lines. -/
theorem keeps_sendLog (lines : ∀ w ls, R w { w with lines := ls })
    (chain : ∀ w c, w.cores.get? id = some (.structured c) → R w ((StructuredCore.useChain id c).perform w).2)
    (level : Value) (record : Record) : Keeps R ((core id).sendLog level record) := by
  refine keeps_current id fun d w hd => ?_
  cases d with
  | recording c => exact keeps_enter notes c rfl w
  | structured c =>
    refine Keeps.bind_of w (Keeps.ofExcept _ w) fun l _ => ?_
    rw [perform_ofExcept]
    exact Keeps.bind_of w (chain w c hd) fun _ _ => Logger.keeps_logFields lines _ _ _ _ _ _

/-- A core with other overrides. -/
theorem keeps_overrideField
    (set : ∀ w d d', w.cores.get? id = some d → d'.fields = d.fields → R w { w with cores := w.cores.set id d' })
    (name : String) (value : Value) : Keeps R ((core id).overrideField name value) := by
  refine keeps_current id fun d w hd => ?_
  cases d with
  | recording c =>
    have henter : Keeps R (c.enter "override_field" [.text name, value]) := keeps_enter notes c rfl
    refine Keeps.bind_of w (henter w) fun _ _ => ?_
    rw [c.after_enter]
    exact set _ (.recording c) _ hd rfl
  | structured c => exact set w _ _ hd rfl

variable (aside : ∀ w w', Aside w w' → R w w')
include aside

theorem keeps_setLoggingLevel (level : Value) : Keeps R ((core id).setLoggingLevel level) := by
  refine keeps_current id fun d w _ => ?_
  cases d with
  | recording c => exact keeps_enter notes c rfl w
  | structured c => exact aside _ _ (Keeps.bind (Keeps.ofExcept _) (fun _ => aside_setLoggingLevel _) w)

theorem keeps_setLogPattern (pattern : Value) : Keeps R ((core id).setLogPattern pattern) := by
  refine keeps_current id fun d w _ => ?_
  cases d with
  | recording c => exact keeps_enter notes c rfl w
  | structured c => exact aside _ _ (aside_setLogPattern pattern w)

theorem keeps_logMessage (level message : Value) (fields : Record) :
    Keeps R ((core id).logMessage level message fields) := by
  refine keeps_current id fun d w _ => ?_
  cases d with
  | recording c => exact Keeps.bind (Keeps.ofExcept _) (fun _ => keeps_enter notes c rfl) w
  | structured c =>
    have hlog : Keeps Aside (do
        let context ← Act.context (← Act.correlationContext)
        let level ← Act.ofExcept (Level.ofLine level)
        context.logMessage (.text level.name) message fields) :=
      Keeps.bind aside_correlationContext fun id => Keeps.bind (aside_context id) fun context =>
        Keeps.bind (Keeps.ofExcept _) fun _ => context.aside_logMessage _ _ _
    exact aside _ _ (Keeps.bind (Keeps.ofExcept _) (fun _ => hlog) w)

end Keeps

/-! ## Cores that leave all else alone -/

variable {s : Scope}

/-- A recording core's notes are no emissions. -/
theorem still_note (call : List Value) (hcall : Emission.ofCall? call = none) : Keeps (Still s) (Act.note call) := by
  refine fun w => ⟨Confined.of_same rfl rfl rfl rfl, fun _ => rfl, ?_⟩
  show (w.calls ++ [_]).filterMap _ = w.calls.filterMap _
  simp [hcall]

theorem still_initLog : Keeps (Still s) (core id).initLog := keeps_initLog id still_note

/-- Putting helpers on a request concerns no other host. -/
theorem still_bindLogFunctions (target : Nat) :
    Keeps (Still { hosts := [target] }) ((core id).bindLogFunctions target) :=
  keeps_bindLogFunctions id still_note (StructuredCore.still_bindLogFunctions target)

/-- A structured core only touches the request. -/
theorem undisturbed_bindLogFunctions {target : Nat} {w : World} (hc : (w.overridesOf? id).isSome) :
    Undisturbed target w (((core id).bindLogFunctions target).perform w).2 := by
  obtain ⟨overrides, ho⟩ := Option.isSome_iff_exists.1 hc
  obtain ⟨c, hc, -⟩ := World.structured_of_overridesOf? ho
  unfold core
  dsimp only
  rw [perform_bind_ok (perform_current hc)]
  exact StructuredCore.undisturbed_bindLogFunctions target w

theorem still_writeStaticFields (record : Record) (w : World) :
    Still s w ((core id).writeStaticFields record w).2.2 := keeps_writeStaticFields id still_note record w

theorem still_sendLog (level : Value) (record : Record) : Keeps (Still s) ((core id).sendLog level record) :=
  keeps_sendLog id still_note (fun w ls => (Logger.aside_lines w ls).still)
    (fun _ _ hc => StructuredCore.still_useChain hc) level record

theorem still_setLoggingLevel (level : Value) : Keeps (Still s) ((core id).setLoggingLevel level) :=
  keeps_setLoggingLevel id still_note (fun _ _ => Aside.still) level

theorem still_setLogPattern (pattern : Value) : Keeps (Still s) ((core id).setLogPattern pattern) :=
  keeps_setLogPattern id still_note (fun _ _ => Aside.still) pattern

/-- Overriding a field concerns no other core. -/
theorem still_overrideField (name : String) (value : Value) :
    Keeps (Still { core := some id }) ((core id).overrideField name value) :=
  keeps_overrideField id still_note (fun _ _ _ _ _ => Still.setCore (.inl rfl)) name value

theorem still_logMessage (level message : Value) (fields : Record) :
    Keeps (Still s) ((core id).logMessage level message fields) :=
  keeps_logMessage id still_note (fun _ _ => Aside.still) level message fields

/-- The cores of an application, watched. -/
theorem core_watched {env : Surroundings} (hcore : env.core = core) (id : Nat) :
    env.watched.core id = (core id).watched := by
  rw [← hcore]
  rfl

variable {fs : FieldFunction → Prop}

/-- **The cores of an application leave logs to the pipeline.** -/
theorem discreet {env : Surroundings} (hcore : env.core = core)
    (hcall : ∀ parties f, fs f → ∀ record w, Quiet fs none w (env.call parties f record w).2.2) : env.Discreet fs where
  initLog c := hcore ▸ (still_initLog c).mono fun _ _ h => h.quiet (s := {})
  bindLogFunctions c target := hcore ▸ (still_bindLogFunctions c target).mono fun _ _ => Still.quiet
  writeStaticFields c record w := hcore ▸ (still_writeStaticFields (s := {}) c record w).quiet
  sendLog c level record := hcore ▸ (still_sendLog (s := {}) c level record).mono fun _ _ => Still.quiet
  setLoggingLevel c level := hcore ▸ (still_setLoggingLevel (s := {}) c level).mono fun _ _ => Still.quiet
  setLogPattern c pattern := hcore ▸ (still_setLogPattern (s := {}) c pattern).mono fun _ _ => Still.quiet
  overrideField c name value := hcore ▸ (still_overrideField c name value).mono fun _ _ => Still.quiet
  logMessage c level message fields :=
    hcore ▸ (still_logMessage (s := {}) c level message fields).mono fun _ _ => Still.quiet
  call := hcall

end Standard

end ActivityLog
