import ActivityLog.Proofs.Facade
import ActivityLog.Proofs.Facade.Growth
import ActivityLog.Proofs.Lifecycle.Frame
import ActivityLog.Proofs.Reading

/-!
# What a facade is asked for

In orderly surroundings (`Surroundings.Orderly`) functions and references leave facades to those who use them, but for
what the application's own one lacks. Then asking a facade for its core or its pipeline makes that facade grow and no
other but the application's own (`Facade.demandCore_evolves`, `Facade.demandPipeline_evolves`), and so do arrivals and
completions (`Surroundings.Orderly.start`, `Surroundings.Orderly.complete`).
-/

namespace ActivityLog

open Act

/-- The cores are those of an application. Functions and references make the application's own facade grow at most, and
do not hand records over. Where a core is made that a facade lacks, its references have not made one meanwhile. -/
structure Surroundings.Orderly (env : Surroundings) : Prop where
  core : env.core = Standard.core
  call : ∀ parties f record w, Evolves none w (env.call parties f record w).2.2
  resolve : ∀ v, Keeps (Evolves none) (env.resolve v)
  made : ∀ w n f c w', w.facades.get? n = some f → f.core = none →
    (StructuredCore.create env.resolve f.config).perform w = (.ok c, w') → w'.facades.get? n = some f

variable {env : Surroundings} {asked : Option Nat} {w w' : World} {id c i : Nat} {f : Facade}

/-! ## New cores and new pipelines -/

theorem Act.elsewhere_settings : Keeps Elsewhere settings := by
  refine Keeps.bind Keeps.get fun w => ?_
  split
  · exact Keeps.pure _
  · refine Keeps.bind (Keeps.ofExcept _) fun s => ?_
    exact Keeps.bind (Keeps.modify fun w => ⟨rfl, rfl, rfl, rfl, fun _ => rfl, rfl⟩) fun _ => Keeps.pure s

namespace StructuredCore

theorem elsewhere_configureLogging (s : Settings) : Keeps Elsewhere (configureLogging s) :=
  Keeps.bind (Keeps.ofExcept _) fun _ => (aside_configureLogging _ _).mono fun _ _ h => h.elsewhere

/-- The fields of a new core are found with what its references do. -/
theorem keeps_chooseFields {R : World → World → Prop} [IsPreorder World R] {resolve : Document.Resolver Act}
    (hresolve : ∀ v, Keeps R (resolve v)) (config : Option FieldConfig) (s : NetworkSettings) :
    Keeps R (chooseFields resolve config s) := by
  unfold chooseFields
  split
  · exact Keeps.pure _
  · dsimp only
    split
    · exact Keeps.pure _
    · exact Keeps.bind Keeps.get fun w => FieldConfig.keeps_load hresolve _ _

theorem evolves_create {resolve : Document.Resolver Act} (hresolve : ∀ v, Keeps (Evolves none) (resolve v))
    (config : Option FieldConfig) : Keeps (Evolves none) (create resolve config) := by
  refine Keeps.bind (elsewhere_settings.mono fun _ _ h => h.evolves) fun s => ?_
  refine Keeps.bind ((elsewhere_configureLogging s).mono fun _ _ h => h.evolves) fun _ => ?_
  exact Keeps.bind (keeps_chooseFields hresolve _ _) fun fields w => Evolves.addCore _

end StructuredCore

/-- Without fields of its own a new pipeline asks its core for them. -/
theorem Pipeline.create_none (hcore : env.core = Standard.core) (c : Nat) : create env c none =
    ((Standard.core c).told .pre >>= fun pre =>
      (Standard.core c).told .post >>= fun post => addPipeline ⟨c, ⟨pre, post⟩, defaultLevel⟩) := by
  unfold create
  rw [hcore]
  simp only [pure_bind]
  rfl

/-- **A new pipeline** has the fields that are given, or those of its core. -/
theorem Pipeline.create_cases (hcore : env.core = Standard.core) (c : Nat) (config : Option FieldConfig) (w : World) :
    ((∃ e, ((create env c config).perform w).1 = .error e) ∧ Elsewhere w ((create env c config).perform w).2) ∨
    ∃ fields w₁, Elsewhere w w₁ ∧ config.or (w.fieldsOf? c) = some fields ∧
      (create env c config).perform w = (.ok w₁.pipelines.next,
        { w₁ with pipelines := w₁.pipelines.add ⟨c, fields, defaultLevel⟩ }) := by
  cases config with
  | some fields => exact .inr ⟨fields, w, refl_of Elsewhere w, rfl, rfl⟩
  | none =>
    rw [create_none hcore]
    have hpre := Standard.elsewhere_told c .pre w
    rcases hr : ((Standard.core c).told .pre).perform w with ⟨e | pre, w₁⟩ <;> rw [hr] at hpre
    · rw [perform_bind_error hr]
      exact .inl ⟨⟨e, rfl⟩, hpre⟩
    obtain ⟨fields, hfields, rfl⟩ := Standard.fields_of_told c (congrArg Prod.fst hr)
    rw [perform_bind_ok hr]
    have hpost := Standard.elsewhere_told c .post w₁
    rcases hr' : ((Standard.core c).told .post).perform w₁ with ⟨e | post, w₂⟩ <;> rw [hr'] at hpost
    · rw [perform_bind_error hr']
      exact .inl ⟨⟨e, rfl⟩, trans_of Elsewhere hpre hpost⟩
    obtain ⟨fields', hfields', rfl⟩ := Standard.fields_of_told c (congrArg Prod.fst hr')
    rw [hpre.fields, hfields] at hfields'
    obtain rfl := Option.some.inj hfields'
    rw [perform_bind_ok hr']
    exact .inr ⟨fields, w₂, trans_of Elsewhere hpre hpost, hfields, rfl⟩

namespace Facade

/-! ## The core and the pipeline of a facade -/

/-- A facade that is missing cannot be asked. -/
theorem perform_facade_none (hf : w.facades.get? id = none) : ∃ e, (facade id).perform w = (.error e, w) := by
  refine ⟨.fault (.other "LookupError") ("unknown " ++ "facade"), ?_⟩
  simp [facade, perform_bind, hf]

/-- What is asked of a facade that may be missing. -/
theorem facade_bind_cases {α : Type} {P : Except Failure α × World → Prop} {g : Facade → Act α}
    (hnone : ∀ e, P (.error e, w)) (hsome : ∀ f, w.facades.get? id = some f → P ((g f).perform w)) :
    P ((facade id >>= g).perform w) := by
  cases hf : w.facades.get? id with
  | none =>
    obtain ⟨e, he⟩ := perform_facade_none hf
    rw [perform_bind_error he]
    exact hnone e
  | some f =>
    rw [perform_bind_ok (perform_facade hf)]
    exact hsome f hf

/-- **Asking for the core** gives the one that is there, or one that the facade has from now on. -/
theorem demandCore_evolves (h : env.Orderly) (id : Nat) (w : World) :
    Evolves (some id) w ((demandCore env id).perform w).2 ∧ ∀ c, ((demandCore env id).perform w).1 = .ok c →
      ∃ f, w.facades.get? id = some f ∧
        ((demandCore env id).perform w).2.facades.get? id = some { f with core := some c } := by
  unfold demandCore
  refine facade_bind_cases (P := fun r => Evolves (some id) w r.2 ∧ ∀ c, r.1 = .ok c → ∃ f, w.facades.get? id = some f ∧
    r.2.facades.get? id = some { f with core := some c }) (fun e => ⟨refl_of (Evolves _) w, nofun⟩) fun f hf => ?_
  obtain ⟨core, config, pipeline⟩ := f
  cases core with
  | some c =>
    refine ⟨refl_of (Evolves _) w, fun c' hc => ?_⟩
    obtain rfl := Except.ok.inj hc
    exact ⟨_, hf, hf⟩
  | none =>
    have hcreate := StructuredCore.evolves_create h.resolve config w
    dsimp only
    rcases hr : (StructuredCore.create env.resolve config).perform w with ⟨e | c, w₁⟩ <;> rw [hr] at hcreate
    · rw [perform_bind_error hr]
      exact ⟨hcreate.mono, nofun⟩
    have hf₁ : w₁.facades.get? id = some ⟨none, config, pipeline⟩ := h.made w id _ c w₁ hf rfl hr
    rw [perform_bind_ok hr]
    refine ⟨trans_of (Evolves _) hcreate.mono (Evolves.changeFacade hf₁ ⟨rfl, nofun, fun _ hi => hi⟩ fun ht => ?_),
      fun c' hc => ?_⟩
    · exact World.serves_of_none ((ht id _ hf₁).pipeline_eq_none rfl)
    · obtain rfl := Except.ok.inj hc
      refine ⟨_, hf, ?_⟩
      show (w₁.facades.modify id _).get? id = _
      rw [Table.get?_modify, if_pos rfl, hf₁, Option.map_some]

/-- **Asking for the pipeline** gives the one that is there, or one that the facade has from now on. -/
theorem demandPipeline_evolves (h : env.Orderly) (id : Nat) (w : World) :
    Evolves (some id) w ((demandPipeline env id).perform w).2 ∧ ∀ i, ((demandPipeline env id).perform w).1 = .ok i →
      ∃ f, ((demandPipeline env id).perform w).2.facades.get? id = some f ∧ f.pipeline = some i := by
  unfold demandPipeline
  refine facade_bind_cases (P := fun r => Evolves (some id) w r.2 ∧ ∀ i, r.1 = .ok i → ∃ f,
    r.2.facades.get? id = some f ∧ f.pipeline = some i) (fun e => ⟨refl_of (Evolves _) w, nofun⟩) fun f hf => ?_
  obtain ⟨core, config, pipeline⟩ := f
  cases pipeline with
  | some i =>
    refine ⟨refl_of (Evolves _) w, fun i' hi => ?_⟩
    obtain rfl := Except.ok.inj hi
    exact ⟨_, hf, rfl⟩
  | none =>
    obtain ⟨hmade, hrow⟩ := demandCore_evolves h id w
    dsimp only
    rcases hr : (demandCore env id).perform w with ⟨e | c, w₁⟩ <;> rw [hr] at hmade hrow
    · rw [perform_bind_error hr]
      exact ⟨hmade, nofun⟩
    obtain ⟨f, hf', hf₁⟩ := hrow c rfl
    obtain rfl := Option.some.inj (hf.symm.trans hf')
    rw [perform_bind_ok hr]
    rcases Pipeline.create_cases h.core c config w₁ with ⟨⟨e, he⟩, hkept⟩ | ⟨fields, w₂, hkept, hfields, hcreated⟩
    · rw [perform_bind_error (Prod.ext he rfl)]
      exact ⟨trans_of (Evolves _) hmade hkept.evolves, nofun⟩
    rw [perform_bind_ok hcreated]
    have hadded := trans_of (Evolves (some id)) hmade (trans_of (Evolves _) hkept.evolves
      (Evolves.addPipeline ⟨c, fields, Pipeline.defaultLevel⟩))
    have hf₂ : w₂.facades.get? id = some ⟨some c, config, none⟩ := by rw [hkept.facades, hf₁]
    rw [← hkept.fields] at hfields
    refine ⟨trans_of (Evolves _) hadded (Evolves.changeFacade hf₂ ⟨rfl, fun _ hc => hc, nofun⟩ fun _ i hi => ?_),
      fun i hi => ⟨⟨some c, config, some i⟩, ?_, rfl⟩⟩
    · obtain rfl := Option.some.inj hi
      exact ⟨⟨c, fields, Pipeline.defaultLevel⟩, by rw [Table.get?_add, if_pos rfl], rfl, hfields, rfl⟩
    · obtain rfl := Except.ok.inj hi
      show (w₂.facades.modify id _).get? id = _
      rw [Table.get?_modify, if_pos rfl, hf₂, Option.map_some]

/-! ## The application's own facade -/

theorem perform_own (h : w.ownFacade = some id) : own.perform w = (.ok id, w) := by
  unfold own
  rw [perform_bind_ok (perform_get w), h]
  rfl

/-- The application's own facade is the one that it has, or a new one. -/
theorem own_evolves (w : World) : Evolves none w (own.perform w).2 ∧ ∀ n, (own.perform w).1 = .ok n →
    (own.perform w).2.ownFacade = some n := by
  cases ho : w.ownFacade with
  | some m =>
    rw [perform_own ho]
    refine ⟨refl_of (Evolves none) w, fun n hn => ?_⟩
    rw [← Except.ok.inj hn]
    exact ho
  | none =>
    unfold own
    rw [perform_bind_ok (perform_get w), ho]
    refine ⟨Evolves.addOwn ho, fun n hn => ?_⟩
    rw [← Except.ok.inj hn]
    rfl

/-- What is asked of the application's own facade. -/
theorem own_bind {α : Type} {g : Nat → Act α} (hg : ∀ n, Keeps (Evolves (some n)) (g n)) :
    Keeps (Evolves none) (own >>= g) := by
  intro w
  obtain ⟨hown, hid⟩ := own_evolves w
  exact Keeps.bind_of w hown fun n hn => (hg n _).of_own (hid n hn)

end Facade

/-! ## Arrivals and completions -/

/-- No function is told apart here. -/
theorem World.calls_all (w : World) : w.Calls fun _ => True := fun _ _ _ _ _ _ => trivial

namespace Surroundings.Orderly

theorem discreet (h : env.Orderly) : env.Discreet fun _ => True :=
  Standard.discreet h.core fun parties f _ record w => (h.call parties f record w).quiet

/-- Walking a log is none of a facade's business, but for what functions do. -/
theorem frames (h : env.Orderly) (asked : Option Nat) : env.Frames (fun _ => True) (Growth asked) where
  seen _ _ _ _ _ := .of_same rfl rfl rfl fun _ => rfl
  diagnostics _ _ := .of_same rfl rfl rfl fun _ => rfl
  setLog _ _ _ := .of_same rfl rfl rfl fun _ => rfl
  addLog _ _ := .of_same rfl rfl rfl fun _ => rfl
  withRecord _ _ _ := .of_same rfl rfl rfl fun _ => rfl
  noted _ _ := .of_same rfl rfl rfl fun _ => rfl
  call parties f _ record w := (h.call parties f record w).growth.mono

/-- **An arrival** makes the application's own facade grow at most. -/
theorem start (h : env.Orderly) (pipeline request response : Nat) :
    Keeps (Evolves asked) (Pipeline.start env pipeline request response) := by
  intro w
  refine ⟨(Pipeline.quiet_start h.discreet w.calls_all pipeline request response).1, ?_⟩
  refine (h.frames asked).start (fun _ _ _ => .of_same rfl rfl rfl fun _ => rfl) (fun c target => ?_) (fun c => ?_)
    (fun _ w _ _ => w.calls_all) w.calls_all pipeline request response
  · rw [h.core]
    exact (Standard.elsewhere_bindLogFunctions c target).mono fun _ _ hk => hk.evolves.growth
  · rw [h.core]
    exact (Standard.elsewhere_initLog c).mono fun _ _ hk => hk.evolves.growth

/-- **A completion** makes the application's own facade grow at most. -/
theorem complete (h : env.Orderly) (id : Nat) : Keeps (Growth asked) (Lifecycle.complete env.watched id) := by
  intro w
  refine (h.frames asked).complete (fun c record w => ?_) (fun c level record => ?_)
    (fun _ _ _ => .of_same rfl rfl rfl fun _ => rfl) w.calls_all id
  · rw [h.core]
    exact (Standard.elsewhere_writeStaticFields c record w).evolves.growth
  · rw [h.core]
    exact (Standard.elsewhere_sendLog c level record).mono fun _ _ hk => hk.evolves.growth

/-- Logging a request concerns the facade by which it is logged, and the application's own one. -/
theorem logNetwork (h : env.Orderly) (id request response : Nat) {α : Type} {next : Act α}
    (hnext : Keeps (Evolves (some id)) next) :
    Keeps (Evolves (some id)) (Facade.logNetwork env id request response next) := by
  refine Keeps.bind (fun w => (Facade.demandPipeline_evolves h id w).1) fun i => ?_
  refine Keeps.bind (Keeps.outcome (h.start i request response)) fun result => ?_
  split
  · exact hnext
  · exact Keeps.bind ((Elsewhere.diagnose _).mono fun _ _ hk => hk.evolves) fun _ => hnext

end Surroundings.Orderly

end ActivityLog
