import ActivityLog.Builtin.Modules
import ActivityLog.Proofs.Facade.Making

/-!
# Cores and fields that are replaced

The core and the fields of a facade may be replaced at any time, while requests are under way.

- `Use.effect`: a use of an application leaves logs with their pipelines, pipelines as they are and facades tied to
  theirs, and a facade has what it was given last.
- `Facade.requests_keep_pipeline`: so has any run. New requests get a pipeline with the newest core and the newest
  fields; requests under way keep theirs, whatever is replaced meanwhile; fields that cannot be read replace nothing.
- `Facade.not_setDocument_inert`: reading them may still make what the application's own facade lacks.
-/

namespace ActivityLog

open Act

/-- What happens to an application and to its facades. -/
inductive Use where
  /-- What does not go through a facade. -/
  | traffic (e : Event)
  /-- A facade is made, with a core and fields or without. -/
  | make (core : Option Nat) (config : Option FieldConfig)
  /-- The application's own facade is needed. -/
  | own
  | logNetwork (facade request response : Nat)
  | core (facade : Nat)
  | pipeline (facade : Nat)
  | setCore (facade core : Nat)
  | setConfig (facade : Nat) (config : FieldConfig)
  | setDocument (facade : Nat) (document : Value)

namespace Use

/-- The state after a use, whether it fails or not. -/
def step (env : Surroundings) (w : World) : Use → World
  | .traffic e => e.step env w
  | .make c config => ((addFacade { core := c, config }).perform w).2
  | .own => (Facade.own.perform w).2
  | .logNetwork facade request response => ((Facade.logNetwork env facade request response (pure ())).perform w).2
  | .core facade => ((Facade.demandCore env facade).perform w).2
  | .pipeline facade => ((Facade.demandPipeline env facade).perform w).2
  | .setCore facade c => ((Facade.setCore facade c).perform w).2
  | .setConfig facade config => ((Facade.setConfig facade config).perform w).2
  | .setDocument facade document => ((Facade.setDocument env facade document).perform w).2

/-- The state after some uses. -/
def run (env : Surroundings) (us : List Use) (w : World) : World := us.foldl (step env) w

/-- The log that a use completes. -/
def completed? : Use → Option Nat
  | .traffic e => e.completed?
  | _ => none

/-- The core that a facade is given. -/
def core? (n : Nat) : Use → Option Nat
  | .setCore facade c => if facade = n then some c else none
  | _ => none

/-- The fields that a facade is given. Those that cannot be read are not. -/
def config? (env : Surroundings) (n : Nat) (w : World) : Use → Option FieldConfig
  | .setConfig facade config => if facade = n then some config else none
  | .setDocument facade document =>
    if facade = n then ((FieldConfig.ofValue env.resolve document).perform w).1.toOption else none
  | _ => none

/-- The core that a facade has been given last, after the one that it had. -/
def newestCore (n : Nat) (us : List Use) (core : Option Nat) : Option Nat :=
  us.foldl (fun core u => (u.core? n).or core) core

/-- The fields that a facade has been given last, after those that it had. -/
def newestConfig (env : Surroundings) (n : Nat) : List Use → World → Option FieldConfig → Option FieldConfig
  | [], _, config => config
  | u :: us, w, config => newestConfig env n us (u.step env w) ((u.config? env n w).or config)

end Use

variable {env : Surroundings} {busy : Option Nat} {asked core : Option Nat} {config : Option FieldConfig}
  {w w' w'' : World} {n id : Nat} {f : Facade}

/-! ## One use -/

/-- What a use does to logs and to a facade that may be given a core or fields: pipelines stay, logs stay with theirs,
facades stay tied, and the facade has what it was given, or had. -/
structure Effect (busy : Option Nat) (n : Nat) (core : Option Nat) (config : Option FieldConfig) (w w' : World) :
    Prop where
  steady : Steady (fun _ => True) busy w w'
  tied : w.Tied → w'.Tied
  row : ∀ f, w.facades.get? n = some f → ∃ f', w'.facades.get? n = some f' ∧ f'.config = config.or f.config ∧
    ∀ c, core.or f.core = some c → f'.core = some c

namespace Effect

/-- To grow is to have what one had. -/
theorem of_growth (hs : Steady (fun _ => True) busy w w') (hg : Growth asked w w') : Effect busy n none none w w' := by
  refine ⟨hs, hg.tied, fun f hf => ?_⟩
  obtain ⟨f', hf', hgrown, -⟩ := hg.facades n f hf
  exact ⟨f', hf', hgrown.config, hgrown.core⟩

theorem of_evolves (h : Evolves asked w w') : Effect none n none none w w' := of_growth h.quiet.toSteady h.growth

/-- A facade without a pipeline takes the place of another one. -/
theorem setFacade {m : Nat} {f g : Facade} (hf : w.facades.get? m = some f) (hg : g.pipeline = none)
    (hconfig : m = n → g.config = config.or f.config) (hcore : m = n → ∀ c, core.or f.core = some c → g.core = some c)
    (hother : m ≠ n → core = none ∧ config = none) :
    Effect none n core config w { w with facades := w.facades.set m g } := by
  refine ⟨Steady.of_same rfl rfl, fun ht k f' hf' => ?_, fun f' hf' => ?_⟩
  · rw [Table.get?_set] at hf'
    split at hf'
    · rw [hf, Option.map_some] at hf'
      obtain rfl := Option.some.inj hf'
      exact World.serves_of_none hg
    · exact (ht k f' hf').mono (fun _ _ h => h) fun _ _ h => h
  · by_cases hn : m = n
    · subst hn
      obtain rfl := Option.some.inj (hf.symm.trans hf')
      exact ⟨g, Table.get?_set_self hf g, hconfig rfl, hcore rfl⟩
    · obtain ⟨rfl, rfl⟩ := hother hn
      exact ⟨f', by rw [Table.get?_set, if_neg (Ne.symm hn), hf'], rfl, fun _ hc => hc⟩

/-- What a facade has been given after it has grown. -/
theorem after_evolves (h : Evolves asked w w') (h' : Effect none n core config w' w'') :
    Effect none n core config w w'' := by
  refine ⟨h.quiet.toSteady.trans h'.steady, fun ht => h'.tied (h.growth.tied ht), fun f hf => ?_⟩
  obtain ⟨f', hf', hgrown, -⟩ := h.growth.facades n f hf
  obtain ⟨f'', hf'', hconfig, hcore⟩ := h'.row f' hf'
  refine ⟨f'', hf'', by rw [hconfig, hgrown.config], fun c hc => hcore c ?_⟩
  cases core with
  | some c' => exact hc
  | none => exact hgrown.core c hc

end Effect

/-- A facade that is replaced, if it is there. -/
theorem Facade.effect_replace {g : Facade → Facade} (hg : ∀ f, (g f).pipeline = none)
    (hconfig : id = n → ∀ f, (g f).config = config.or f.config)
    (hcore : id = n → ∀ f c, core.or f.core = some c → (g f).core = some c)
    (hother : id ≠ n → core = none ∧ config = none) :
    Effect none n core config w ((do Act.setFacade id (g (← Act.facade id)) : Act Unit).perform w).2 := by
  cases hid : w.facades.get? id with
  | some f =>
    rw [perform_bind_ok (perform_facade hid)]
    exact Effect.setFacade hid (hg f) (fun h => hconfig h f) (fun h => hcore h f) hother
  | none =>
    obtain ⟨e, he⟩ := perform_facade_none hid
    rw [perform_bind_error he]
    refine ⟨refl_of (Steady _ none) w, fun ht => ht, fun f hf => ?_⟩
    have hne : id ≠ n := by
      rintro rfl
      rw [hid] at hf
      cases hf
    obtain ⟨rfl, rfl⟩ := hother hne
    exact ⟨f, hf, rfl, fun _ hc => hc⟩

theorem Facade.effect_setCore (c : Nat) :
    Effect none n (if id = n then some c else none) none w ((setCore id c).perform w).2 := by
  refine effect_replace (g := fun f => { f with core := some c, pipeline := none }) (fun _ => rfl) (fun _ _ => rfl)
    (fun hid f c' hc => ?_) fun hid => ⟨if_neg hid, rfl⟩
  rw [if_pos hid] at hc
  exact hc

theorem Facade.effect_setConfig (fields : FieldConfig) :
    Effect none n none (if id = n then some fields else none) w ((setConfig id fields).perform w).2 := by
  refine effect_replace (g := fun f => { f with config := some fields, pipeline := none }) (fun _ => rfl)
    (fun hid f => ?_) (fun _ _ _ hc => hc) fun hid => ⟨rfl, if_neg hid⟩
  rw [if_pos hid]
  rfl

/-- Traffic makes the application's own facade grow at most. -/
theorem Event.step_growth (h : env.Orderly) (e : Event) (w : World) : Growth none w (e.step env.watched w) := by
  have hcore {α : Type} {x : LoggingCore → Act α} {c : Nat} (hx : Keeps Elsewhere (x (Standard.core c))) :
      Growth none w ((x (env.core c)).perform w).2 := by
    rw [h.core]
    exact (hx w).evolves.growth
  cases e with
  | start pipeline request response => exact (h.start pipeline request response w).growth
  | completion id arguments => exact h.complete id w
  | override c name value =>
    exact hcore (x := fun core => core.overrideField name value) (Standard.elsewhere_overrideField c name value)
  | setLevel c level =>
    exact hcore (x := fun core => core.setLoggingLevel level) (Standard.elsewhere_setLoggingLevel c level)
  | setPattern c pattern =>
    exact hcore (x := fun core => core.setLogPattern pattern) (Standard.elsewhere_setLogPattern c pattern)
  | message c level text fields =>
    exact hcore (x := fun core => core.logMessage level text fields) (Standard.elsewhere_logMessage c level text fields)

/-- **What a use does** to logs and to a facade. -/
theorem Use.effect (h : env.Orderly) (n : Nat) (u : Use) (w : World) :
    Effect u.completed? n (u.core? n) (u.config? env n w) w (u.step env.watched w) := by
  cases u with
  | traffic e => exact Effect.of_growth (e.step_steady h.discreet w.calls_all).1 (e.step_growth h w)
  | make c config => exact Effect.of_evolves (Evolves.addFacade rfl : Evolves none w _)
  | own => exact Effect.of_evolves (Facade.own_evolves w).1
  | logNetwork facade request response =>
    exact Effect.of_evolves (h.logNetwork facade request response (Keeps.pure ()) w)
  | core facade => exact Effect.of_evolves (Facade.demandCore_evolves h facade w).1
  | pipeline facade => exact Effect.of_evolves (Facade.demandPipeline_evolves h facade w).1
  | setCore facade c => exact Facade.effect_setCore c
  | setConfig facade fields => exact Facade.effect_setConfig fields
  | setDocument facade document =>
    have hread := FieldConfig.keeps_ofValue h.resolve document w
    show Effect none n none (if facade = n then ((FieldConfig.ofValue env.resolve document).perform w).1.toOption
      else none) w ((FieldConfig.ofValue env.resolve document >>= Facade.setConfig facade).perform w).2
    rcases hr : (FieldConfig.ofValue env.resolve document).perform w with ⟨e | fields, w₁⟩ <;> rw [hr] at hread
    · rw [perform_bind_error hr]
      have hnone : (if facade = n then (Except.error e : Except Failure FieldConfig).toOption else none) = none :=
        ite_self none
      rw [hnone]
      exact Effect.of_evolves hread
    · rw [perform_bind_ok hr]
      exact Effect.after_evolves hread (Facade.effect_setConfig fields)

/-! ## Runs -/

namespace Use

/-- **Facades stay tied** to their pipelines. -/
theorem run_tied (h : env.Orderly) (us : List Use) (hw : w.Tied) : (run env.watched us w).Tied := by
  induction us generalizing w with
  | nil => exact hw
  | cons u us ih => exact ih ((u.effect h 0 w).tied hw)

/-- **A facade has the core and the fields that it was given last.** -/
theorem run_row (h : env.Orderly) (us : List Use) (hf : w.facades.get? n = some f)
    (hcore : ∀ c, core = some c → f.core = some c) :
    ∃ f', (run env.watched us w).facades.get? n = some f' ∧ f'.config = newestConfig env.watched n us w f.config ∧
      ∀ c, newestCore n us core = some c → f'.core = some c := by
  induction us generalizing w f core with
  | nil => exact ⟨f, hf, rfl, hcore⟩
  | cons u us ih =>
    obtain ⟨f', hf', hconfig, hgiven⟩ := (u.effect h n w).row f hf
    have hcore' (c : Nat) (hc : (u.core? n).or core = some c) : f'.core = some c := by
      refine hgiven c ?_
      cases hu : u.core? n with
      | some c' => rwa [hu] at hc
      | none =>
        rw [hu] at hc
        exact hcore c hc
    obtain ⟨f'', hf'', hconfig', hgiven'⟩ := ih hf' hcore'
    exact ⟨f'', hf'', by rw [hconfig', hconfig]; rfl, hgiven'⟩

/-- **A log keeps its pipeline, and the pipeline stays as it is.** Until it is completed the log stays where it is. -/
theorem run_log (h : env.Orderly) (us : List Use) {l : Lifecycle} (hl : w.lifecycles.get? id = some l) {i : Nat}
    {p : Pipeline} (hp : w.pipelines.get? i = some p) :
    (run env.watched us w).pipelines.get? i = some p ∧
      ∃ record state, (run env.watched us w).lifecycles.get? id = some { l with record, state } ∧
        ((∀ u ∈ us, u.completed? ≠ some id) → state = l.state) := by
  induction us generalizing w l with
  | nil => exact ⟨hp, l.record, l.state, hl, fun _ => rfl⟩
  | cons u us ih =>
    have hsteady := (u.effect h 0 w).steady
    obtain ⟨record, state, hl', hs⟩ := hsteady.lifecycles id l hl
    obtain ⟨hp', record', state', hl'', hs'⟩ := ih hl' (hsteady.pipelines i p hp)
    refine ⟨hp', record', state', hl'', fun hus => ?_⟩
    rw [hs' fun u hu => hus u (List.mem_cons_of_mem _ hu)]
    exact hs (hus u List.mem_cons_self)

end Use

/-! ## Requests -/

/-- A log that has its pipeline for good: the pipeline is there, and what completes the log resolves the fields of that
pipeline, and hands the record over to the core of that pipeline. -/
structure Lifecycle.Served (env : Surroundings) (id i : Nat) (p : Pipeline) (l : Lifecycle) (w : World) : Prop where
  log : w.lifecycles.get? id = some l
  pipeline : l.pipeline = i ∧ w.pipelines.get? i = some p
  completion : l.state = .awaitingCompletion → ∀ arguments,
    (Event.completion id arguments).step env.watched w =
        ((writeField l.request.target recordField (.shared (.record id) true)).perform
          (l.released env.watched id p w)).2 ∧
      ((Event.completion id arguments).step env.watched w).emissions = w.emissions ++ l.attempt env id p w

theorem Lifecycle.served (h : env.Orderly) {l : Lifecycle} {i : Nat} {p : Pipeline}
    (hl : w.lifecycles.get? id = some l) (hi : l.pipeline = i) (hp : w.pipelines.get? i = some p) :
    l.Served env id i p w := by
  refine ⟨hl, ⟨hi, hp⟩, fun hs arguments => ?_⟩
  obtain ⟨hstep, hnotes, -⟩ := Event.step_of_waiting h.discreet w.calls_all hl hs (hi ▸ hp) arguments
  exact ⟨hstep, hnotes⟩

namespace Pipeline

variable {i q r : Nat} {p : Pipeline} {w₁ : World}

/-- **A request that is logged keeps its pipeline.** Once its log is opened the arrival resolves the fields of arrival of
that pipeline; whatever happens afterwards, the log has the pipeline for good. If the arrival succeeds the log waits
until it is completed. -/
theorem served_of_opened (h : env.Orderly) {v : World} (hp : w₁.pipelines.get? i = some p)
    (hopened : (opened env.watched i q r).perform w₁ = (.ok id, v)) (us : List Use) :
    let w₂ := (start env.watched i q r).after .startFailed w₁
    let w₃ := Use.run env.watched us w₂
    ∃ l, v.lifecycles.get? id = some l ∧ (start env.watched i q r).perform w₁ = (begin env.watched id).perform v ∧
      (Lifecycle.resolvePre env.watched id).perform v = (.ok (), l.resolved env.watched id .pre p v) ∧
      ∃ record state, Lifecycle.Served env id i p { l with record, state } w₃ ∧
        (((start env.watched i q r).perform w₁).1 = .ok id → (∀ u ∈ us, u.completed? ≠ some id) →
          state = .awaitingCompletion) := by
  intro w₂ w₃
  obtain ⟨l, hl, rfl⟩ := get?_opened hopened
  have hquiet := quiet_opened h.discreet l.pipeline q r w₁
  rw [hopened] at hquiet
  have hpv : v.pipelines.get? l.pipeline = some p := hquiet.pipelines _ _ hp
  have hstart : (start env.watched l.pipeline q r).perform w₁ = (begin env.watched id).perform v := by
    rw [start_eq, perform_bind_ok hopened]
  obtain ⟨hbegun, hreturned⟩ := quiet_begin h.discreet v.calls_all id
  rw [← hstart] at hbegun hreturned
  obtain ⟨ds, hw₂⟩ := (start env.watched l.pipeline q r).after_eq .startFailed w₁
  change w₂ = _ at hw₂
  have hsteady : Steady (fun _ => True) (some id) v w₂ := by
    rw [hw₂]
    exact hbegun.toSteady.trans (Steady.of_same rfl rfl)
  obtain ⟨record₂, state₂, hl₂, -⟩ := hsteady.lifecycles id l hl
  obtain ⟨hp₃, record₃, state₃, hl₃, hkept⟩ := Use.run_log h us hl₂ (hsteady.pipelines _ _ hpv)
  refine ⟨l, hl, hstart, Lifecycle.perform_resolvePre hl hpv, record₃, state₃,
    Lifecycle.served h hl₃ rfl hp₃, fun hok hus => ?_⟩
  obtain ⟨-, l', hl', hwaits⟩ := hreturned id hok
  have hsame : w₂.lifecycles.get? id = some l' := by rw [hw₂, ← hl']
  rw [hl₂] at hsame
  rw [hkept hus, ← hwaits, ← Option.some.inj hsame]

end Pipeline

namespace Facade

variable {w₁ : World} {i : Nat}

/-- **A pipeline that is asked for** is the one that the facade has from now on, with its core and its fields. -/
theorem demandPipeline_fits (h : env.Orderly) (hw : w.Tied) (hf : w.facades.get? n = some f)
    (hi : (demandPipeline env n).perform w = (.ok i, w₁)) : ∃ f₁ p, w₁.facades.get? n = some f₁ ∧ f.Grown f₁ ∧
      f₁.pipeline = some i ∧ w₁.pipelines.get? i = some p ∧ w₁.Fits f₁ p := by
  obtain ⟨hevolves, hgiven⟩ := demandPipeline_evolves h n w
  rw [hi] at hevolves hgiven
  obtain ⟨f₁, hf₁, hpipeline⟩ := hgiven i rfl
  obtain ⟨f', hf', hgrown, -⟩ := hevolves.growth.facades n f hf
  obtain rfl := Option.some.inj (hf₁.symm.trans hf')
  obtain ⟨p, hp, hfits⟩ := hevolves.growth.tied hw n f₁ hf₁ i hpipeline
  exact ⟨f₁, p, hf₁, hgrown, hpipeline, hp, hfits⟩

/-- With a core and fields there is always a pipeline to be had. -/
theorem succeeds_demandPipeline (hf : w.facades.get? n = some f) (hc : f.core.isSome) (hx : f.config.isSome) :
    (demandPipeline env n).Succeeds w := by
  obtain ⟨c, hc⟩ := Option.isSome_iff_exists.1 hc
  rw [succeeds_demandPipeline_iff hf]
  refine .inr ⟨c, w, ?_, Pipeline.succeeds_create_iff.2 (.inl hx)⟩
  unfold demandCore
  rw [perform_bind_ok (perform_facade hf), hc]
  rfl

/-- **Fields that cannot be read replace nothing.** Reading them may make what the application's own facade lacks, if
they refer to that. -/
theorem setDocument_of_error (h : env.Orderly) (hf : w.facades.get? n = some f) {document : Value} {e : Failure}
    (he : (FieldConfig.ofValue env.resolve document).perform w = (.error e, w₁)) :
    (setDocument env n document).perform w = (.error e, w₁) ∧ ∃ f₁, w₁.facades.get? n = some f₁ ∧ f.Grown f₁ ∧
      (w.ownFacade ≠ some n → f₁ = f) ∧ (f.core.isSome → f.pipeline.isSome → f₁ = f) := by
  refine ⟨perform_bind_error he _, ?_⟩
  have hread := FieldConfig.keeps_ofValue h.resolve document w
  rw [he] at hread
  obtain ⟨f₁, hf₁, hgrown, hsame⟩ := hread.growth.facades n f hf
  exact ⟨f₁, hf₁, hgrown, fun hown => hsame hown (Option.some_ne_none n).symm, hgrown.eq_of_isSome⟩

/-- **Requests keep the pipeline that they started with, and a facade uses what it was given last.** Let an application
be used in any way, from a state on in which facades are tied to their pipelines. Then a facade has the fields that it
was given last, and if it was given a core the one that it was given last.

- A request that is logged by it goes by a pipeline with that core and with those fields, or without fields with those
  that the core has of its own. With a core and fields there always is one. As soon as the request has a log the fields
  of arrival of that pipeline are resolved, and whatever happens afterwards, the completion of the log resolves the
  fields of completion of that pipeline, and hands the record over to the core of that pipeline.
- Fields that cannot be read replace nothing: the failure is raised, and the facade keeps its fields, and its core and
  its pipeline as far as it has them. A facade that has both stays as it is, like any but the application's own. -/
theorem requests_keep_pipeline {w₀ : World} (hw : w₀.Tied) {f₀ : Facade} (hf : w₀.facades.get? n = some f₀)
    (before : List Use) :
    let env := Application.surroundings
    let w := Use.run env.watched before w₀
    let core := Use.newestCore n before f₀.core
    let config := Use.newestConfig env.watched n before w₀ f₀.config
    w.Tied ∧ ∃ f, w.facades.get? n = some f ∧ f.config = config ∧ (∀ c, core = some c → f.core = some c) ∧
      (core.isSome → config.isSome → (demandPipeline env.watched n).Succeeds w) ∧
      (∀ i w₁, (demandPipeline env.watched n).perform w = (.ok i, w₁) → ∃ p, w₁.pipelines.get? i = some p ∧
        (∀ c, core = some c → p.core = c) ∧ config.or (w₁.fieldsOf? p.core) = some p.config ∧
        (∃ f₁, w₁.facades.get? n = some f₁ ∧ f₁.core = some p.core ∧ f₁.config = config ∧ f₁.pipeline = some i) ∧
        ∀ q r, (∀ (α : Type) (next : Act α), (logNetwork env.watched n q r next).perform w =
            next.perform ((Pipeline.start env.watched i q r).after .startFailed w₁)) ∧
          ∀ id v, (Pipeline.opened env.watched i q r).perform w₁ = (.ok id, v) →
            ∀ after, let w₃ := Use.run env.watched after (Use.step env.watched w (.logNetwork n q r))
              ∃ l, v.lifecycles.get? id = some l ∧
                (Pipeline.start env.watched i q r).perform w₁ = (Pipeline.begin env.watched id).perform v ∧
                (Lifecycle.resolvePre env.watched id).perform v = (.ok (), l.resolved env.watched id .pre p v) ∧
                ∃ record state, Lifecycle.Served env id i p { l with record, state } w₃ ∧
                  (((Pipeline.start env.watched i q r).perform w₁).1 = .ok id →
                    (∀ u ∈ after, u.completed? ≠ some id) → state = .awaitingCompletion)) ∧
      (∀ document e w₁, (FieldConfig.ofValue env.watched.resolve document).perform w = (.error e, w₁) →
        (setDocument env.watched n document).perform w = (.error e, w₁) ∧ ∃ f₁, w₁.facades.get? n = some f₁ ∧
          f.Grown f₁ ∧ (w.ownFacade ≠ some n → f₁ = f) ∧ (f.core.isSome → f.pipeline.isSome → f₁ = f)) := by
  intro env w core config
  have h : env.Orderly := Application.orderly
  obtain ⟨f, hf, hconfig, hcore⟩ := Use.run_row h before hf fun c hc => hc
  have hw : w.Tied := Use.run_tied h before hw
  change w.facades.get? n = some f at hf
  change f.config = config at hconfig
  refine ⟨hw, f, hf, hconfig, hcore, fun hc hx => ?succeeds, fun i w₁ hi => ?request, fun document e w₁ he => ?document⟩
  case succeeds =>
    obtain ⟨c, hc⟩ := Option.isSome_iff_exists.1 hc
    exact succeeds_demandPipeline hf (by rw [hcore c hc]; rfl) (hconfig ▸ hx)
  case document => exact setDocument_of_error h hf he
  case request =>
    obtain ⟨f₁, p, hf₁, hgrown, hpipeline, hp, hfits⟩ := demandPipeline_fits h hw hf hi
    have hconfig₁ : f₁.config = config := hgrown.config.trans hconfig
    refine ⟨p, hp, fun c hc => ?_, hconfig₁ ▸ hfits.config, ⟨f₁, hf₁, hfits.core, hconfig₁, hpipeline⟩, fun q r => ?_⟩
    · exact Option.some.inj (hfits.core.symm.trans (hgrown.core c (hcore c hc)))
    have hlogged (α : Type) (next : Act α) : (logNetwork env.watched n q r next).perform w =
        next.perform ((Pipeline.start env.watched i q r).after .startFailed w₁) := by
      unfold logNetwork
      rw [perform_bind_ok hi, Pipeline.perform_handle]
    refine ⟨hlogged, fun id v hopened after => ?_⟩
    have hstep : Use.step env.watched w (.logNetwork n q r) =
        (Pipeline.start env.watched i q r).after .startFailed w₁ := congrArg Prod.snd (hlogged Unit (pure ()))
    rw [hstep]
    exact Pipeline.served_of_opened h hp hopened after

/-- An application with two cores that take notes, and a facade for the first one. -/
def twoCores : World :=
  let kind : Descriptor := ⟨"kind", .fixed (.text "first"), true, .null, none⟩
  { hosts := ⟨[{ nature := .dict, items := ⟨[("headers", .dict [])]⟩ }, { nature := .dict }]⟩
    cores := ⟨[.recording { config := { pre := [kind] } }, .recording {}]⟩
    facades := ⟨[{ core := some 0 }]⟩ }

/-- A request is under way while the core and the fields are replaced, the latter once in vain: it goes to the first
core with the first fields, and whoever comes next to the second one without fields. -/
theorem requests_keep_pipeline_replaced :
    let env := Application.surroundings
    let replacements : List Use := [.setCore 0 1, .setConfig 0 {}, .setDocument 0 (.text "pre")]
    let w := Use.run env.watched replacements (Use.step env.watched twoCores (.logNetwork 0 0 1))
    twoCores.Tied ∧ twoCores.facades.get? 0 = some { core := some 0 } ∧
    (∃ p l, p.core = 0 ∧ p.config.pre.map (·.name) = ["kind"] ∧ Lifecycle.Served env 0 0 p l w ∧
      l.state = .awaitingCompletion) ∧
    ∃ f, w.facades.get? 0 = some f ∧ f.config = some {} ∧ f.core = some 1 := by
  intro env replacements w
  have hw : twoCores.Tied := by
    refine World.tied_of_none fun n f hf => ?_
    cases n with
    | zero => rw [← Option.some.inj hf]
    | succ n => cases hf
  have hf : twoCores.facades.get? 0 = some { core := some 0 } := rfl
  obtain ⟨-, -, -, -, -, -, hrequest, -⟩ := requests_keep_pipeline hw hf []
  obtain ⟨-, f, hrow, hconfig, hcore, -⟩ := requests_keep_pipeline hw hf (.logNetwork 0 0 1 :: replacements)
  refine ⟨hw, hf, ?_, f, hrow, ?_, hcore 1 rfl⟩
  · have hi : (demandPipeline env.watched 0).perform twoCores = (.ok 0, _) := perform_of_toOption (by decide +kernel)
    have hopened : (Pipeline.opened env.watched 0 0 1).perform _ = (.ok 0, _) :=
      perform_of_toOption (w := ((demandPipeline env.watched 0).perform twoCores).2) (by decide +kernel)
    obtain ⟨p, hp, hfirst, hfields, -, hlogged⟩ := hrequest 0 _ hi
    have hstart : (Pipeline.start env.watched 0 0 1).perform _ = (.ok 0, _) :=
      perform_of_toOption (w := ((demandPipeline env.watched 0).perform twoCores).2) (by decide +kernel)
    obtain ⟨l, -, -, -, record, state, hserved, hwaits⟩ := (hlogged 0 1).2 0 _ hopened replacements
    have hnames : (((demandPipeline env.watched 0).perform twoCores).2.fieldsOf? 0).map (·.pre.map (·.name)) =
        some ["kind"] := by decide +kernel
    have hown : ((demandPipeline env.watched 0).perform twoCores).2.fieldsOf? p.core = some p.config := hfields
    rw [hfirst 0 rfl] at hown
    rw [hown] at hnames
    refine ⟨p, { l with record, state }, hfirst 0 rfl, Option.some.inj hnames, hserved, ?_⟩
    exact hwaits (congrArg Prod.fst hstart) (by decide)
  · exact hconfig.trans rfl

/-- An application whose own facade has not been used yet. -/
def unused : World := { catalogue := Builtin.catalogue, facades := ⟨[{}]⟩, ownFacade := some 0 }

/-- Fields that name something missing in the pipeline of the application's own facade cannot be read, but to find that
out the core and the pipeline are made. -/
theorem not_setDocument_inert :
    let field : Value := .dict [("name", .text "a"), ("source", .dict [("type", .text "special")]),
      ("fallback", .text "netlog.network:_default.pipeline.nope")]
    let out := (setDocument Application.surroundings 0 (.dict [("pre", .list [field])])).perform unused
    unused.facades.get? 0 = some {} ∧ (∃ e, out.1 = .error e) ∧
      (out.2.facades.get? 0).map (fun f => (f.core, f.pipeline)) = some (some 0, some 0) := by
  intro field out
  have hout : (match out with
      | (.error _, w) => (w.facades.get? 0).map fun f => (f.core, f.pipeline)
      | (.ok _, _) => none) = some (some 0, some 0) := by decide +kernel
  rcases hr : out with ⟨e | u, w⟩ <;> rw [hr] at hout
  · exact ⟨rfl, ⟨e, rfl⟩, hout⟩
  · cases hout

end Facade

end ActivityLog
