import ActivityLog.Proofs.Operation

/-!
# Cores that are made by the way

To make a core may mean to read fields, to read fields may mean to look at the application's own core, and to look at
that means to make it if it is not there. Could the application's own facade come by another core in this way while the
fields for its core are read? It could not: a reference that needs the very core that is being made cannot be followed,
at whatever depth one gives up (`World.Lacks.load_stays`). So the surroundings of an application are orderly
(`Application.orderly`).
-/

namespace ActivityLog

open Act

variable {w w' : World} {id : Nat} {f : Facade} {s : Settings}

/-! ## Deeper surroundings -/

section Refines

variable {env env' : Surroundings} (hresolve : ∀ v, (env.resolve v).Refines (env'.resolve v))
include hresolve

theorem StructuredCore.create_refines (config : Option FieldConfig) :
    (create env.resolve config).Refines (create env'.resolve config) := by
  refine Refines.bind (Refines.refl _) fun s => Refines.bind (Refines.refl _) fun _ => ?_
  refine Refines.bind ?_ fun _ => Refines.refl _
  cases config with
  | some c => exact Refines.refl _
  | none =>
    unfold chooseFields
    dsimp only
    split
    · exact Refines.refl _
    · exact Refines.bind (Refines.refl _) fun v => FieldConfig.load_related Document.Relates.refines hresolve _ _

theorem Facade.demandCore_refines (id : Nat) : (demandCore env id).Refines (demandCore env' id) := by
  refine Refines.bind (Refines.refl _) fun f => ?_
  obtain ⟨core, config, pipeline⟩ := f
  cases core with
  | some c => exact Refines.refl _
  | none => exact Refines.bind (StructuredCore.create_refines hresolve config) fun _ => Refines.refl _

variable (hcore : env.core = env'.core)
include hcore

theorem Facade.demandPipeline_refines (id : Nat) : (demandPipeline env id).Refines (demandPipeline env' id) := by
  have hcreate (c : Nat) (config : Option FieldConfig) :
      Pipeline.create env c config = Pipeline.create env' c config := by
    unfold Pipeline.create
    rw [hcore]
  refine Refines.bind (Refines.refl _) fun f => ?_
  obtain ⟨core, config, pipeline⟩ := f
  cases pipeline with
  | some i => exact Refines.refl _
  | none =>
    refine Refines.bind (demandCore_refines hresolve id) fun c => ?_
    rw [hcreate]
    exact Refines.refl _

theorem Application.look_refines (part : Live) : (look env part).Refines (look env' part) := by
  cases part with
  | core =>
    refine Refines.bind (Refines.refl _) fun w => Refines.bind (Refines.refl _) fun n => ?_
    exact Refines.bind (Facade.demandCore_refines hresolve n) fun _ => Refines.refl _
  | pipeline =>
    refine Refines.bind (Refines.refl _) fun w => Refines.bind (Refines.refl _) fun n => ?_
    have hdemand := Facade.demandPipeline_refines hresolve hcore n
    exact Refines.bind (Refines.bind hdemand fun _ => Refines.refl _) fun _ => Refines.refl _
  | _ => exact Refines.refl _

theorem Application.resolve_refines (v : Value) : (resolve env v).Refines (resolve env' v) := by
  refine Refines.bind (Refines.refl _) fun w => ?_
  exact @Reference.resolve_related _ Refines.relates ⟨w.catalogue, look env⟩ ⟨w.catalogue, look env'⟩
    (look_refines hresolve hcore) rfl v

end Refines

namespace Application

theorem surroundingsWithin_core (n : Nat) : (surroundingsWithin n).core = Standard.core := by cases n <;> rfl

theorem surroundingsWithin_resolve (n : Nat) : (surroundingsWithin (n + 1)).resolve = resolve (surroundingsWithin n) :=
  rfl

/-- **Deeper surroundings find what is found already**, and as it is found. -/
theorem surroundingsWithin_refines (n : Nat) (v : Value) :
    ((surroundingsWithin n).resolve v).Refines ((surroundingsWithin (n + 1)).resolve v) := by
  induction n generalizing v with
  | zero => exact Refines.throw _ _
  | succ n ih =>
    rw [surroundingsWithin_resolve, surroundingsWithin_resolve]
    exact resolve_refines ih ((surroundingsWithin_core n).trans (surroundingsWithin_core (n + 1)).symm) v

end Application

/-! ## A core that is being made -/

/-- The settings are read and logging is configured as they say, and the application's own facade, which has no fields,
has no core yet. -/
structure World.Lacks (w : World) (s : Settings) (id : Nat) (f : Facade) : Prop where
  settings : w.settings = some s
  configured : (StructuredCore.configureLogging s).perform w = (.ok (), w)
  own : w.ownFacade = some id
  facade : w.facades.get? id = some f
  core : f.core = none
  config : f.config = none

theorem Act.perform_settings (h : w.settings = some s) : settings.perform w = (.ok s, w) := by
  unfold settings
  rw [perform_bind_ok (perform_get w), h]
  rfl

/-- Where nothing is lacking but the core, its fields are what it takes to make it. -/
theorem World.Lacks.create_eq (h : w.Lacks s id f) (resolve : Document.Resolver Act) :
    (StructuredCore.create resolve none).perform w = (do
      let config ← StructuredCore.chooseFields resolve none s.network
      addCore (.structured { config })).perform w := by
  unfold StructuredCore.create
  rw [perform_bind_ok (perform_settings h.settings), perform_bind_ok h.configured]

theorem Application.keeps_coreType {R : World → World → Prop} [IsPreorder World R] (id : Nat) :
    Keeps R (coreType id) := by
  refine Keeps.core_bind fun d w _ => ?_
  cases d <;> exact refl_of R w

/-- Only looks at the core or the pipeline may make something. -/
theorem Application.look_stays (env : Surroundings) {part : Live} (hcore : part ≠ .core)
    (hpipeline : part ≠ .pipeline) : Keeps Eq (look env part) := by
  refine Keeps.bind Keeps.get fun w => ?_
  dsimp only
  split
  case h_4 => exact absurd rfl hcore
  case h_6 => exact absurd rfl hpipeline
  case h_5 =>
    split
    · exact keeps_coreType _
    · exact Keeps.pure _
  all_goals exact Keeps.pure _

namespace World.Lacks

section Fails

variable {env : Surroundings} (h : w.Lacks s id f)
  (hfails : ∀ c w', (StructuredCore.create env.resolve none).perform w ≠ (.ok c, w'))
include h hfails

theorem demandCore_ne_ok (c : Nat) : (Facade.demandCore env id).perform w ≠ (.ok c, w') := by
  intro hc
  unfold Facade.demandCore at hc
  rw [perform_bind_ok (perform_facade h.facade), h.core, h.config] at hc
  obtain ⟨c, v, hc, -⟩ := of_perform_bind_eq hc
  exact hfails c v hc

/-- A pipeline that is there without a core is not moved by being asked for, and another one is not to be had. -/
theorem demandPipeline_stays {i : Nat} (hi : (Facade.demandPipeline env id).perform w = (.ok i, w')) : w' = w := by
  unfold Facade.demandPipeline at hi
  rw [perform_bind_ok (perform_facade h.facade)] at hi
  cases hp : f.pipeline with
  | some j =>
    rw [hp] at hi
    exact (Prod.mk.inj hi).2.symm
  | none =>
    rw [hp] at hi
    obtain ⟨c, v, hc, -⟩ := of_perform_bind_eq hi
    exact absurd hc (h.demandCore_ne_ok hfails c)

/-- Looking at the application does not move it as long as the core cannot be made. -/
theorem maintains_look (part : Live) : (Application.look env part).Maintains (· = w) := by
  intro v type w' hv hlook
  obtain rfl : w = v := hv.symm
  by_cases hc : part = .core
  · subst hc
    have hmade : (Facade.own >>= fun n =>
      Facade.demandCore env n >>= Application.coreType).perform w = (.ok type, w') := hlook
    rw [perform_bind_ok (Facade.perform_own h.own)] at hmade
    obtain ⟨c, v, hc, -⟩ := of_perform_bind_eq hmade
    exact absurd hc (h.demandCore_ne_ok hfails c)
  by_cases hp : part = .pipeline
  · subst hp
    have hmade : (Facade.own >>= fun n => discard (Facade.demandPipeline env n) >>= fun _ =>
      pure "NetworkLogPipeline").perform w = (.ok type, w') := hlook
    rw [perform_bind_ok (Facade.perform_own h.own)] at hmade
    obtain ⟨_, v, hi, hlast⟩ := of_perform_bind_eq hmade
    obtain ⟨i, v', hi, hlast'⟩ := of_perform_bind_eq hi
    obtain rfl := h.demandPipeline_stays hfails hi
    exact (Prod.mk.inj hlast).2.symm.trans (Prod.mk.inj hlast').2.symm
  · have hkept := Application.look_stays env hc hp w
    rw [hlook] at hkept
    exact hkept.symm

end Fails

end World.Lacks

/-- To read the file that the settings name makes no core, whatever the depth at which one gives up: a reference that
needs the core that is being made cannot be followed. -/
theorem World.Lacks.load_stays (h : w.Lacks s id f) (hpath : (s.network.fieldConfigPath.getD "").isEmpty = false)
    (n : Nat) {config : FieldConfig} (hload : (FieldConfig.load (Application.surroundingsWithin n).resolve w.files
      (s.network.fieldConfigPath.getD "")).perform w = (.ok config, w')) : w' = w := by
  induction n generalizing config w' with
  | zero =>
    have hthrow (v : Value) : ((Application.surroundingsWithin 0).resolve v).Maintains (· = w) :=
      fun _ _ _ _ hv => by cases hv
    exact FieldConfig.load_maintains hthrow _ _ w config w' rfl hload
  | succ n ih =>
    by_cases hok : ∃ c v, (FieldConfig.load (Application.surroundingsWithin n).resolve w.files
      (s.network.fieldConfigPath.getD "")).perform w = (.ok c, v)
    · -- what could be read without looking deeper is read in the same way
      obtain ⟨c, v, hc⟩ := hok
      have hsame := FieldConfig.load_related Document.Relates.refines (Application.surroundingsWithin_refines n) _ _ w c v hc
      rw [hload] at hsame
      exact (Prod.mk.inj hsame).2.trans (ih hc)
    · -- what could not be read needs a core, which cannot be made as its fields cannot be read
      have hfails (c : Nat) (v : World) :
          (StructuredCore.create (Application.surroundingsWithin n).resolve none).perform w ≠ (.ok c, v) := by
        intro hc
        rw [h.create_eq] at hc
        obtain ⟨config, v', hchosen, -⟩ := of_perform_bind_eq hc
        refine hok ⟨config, v', ?_⟩
        unfold StructuredCore.chooseFields at hchosen
        simpa [hpath, perform_bind] using hchosen
      have hresolve (v : Value) : ((Application.surroundingsWithin (n + 1)).resolve v).Maintains (· = w) := by
        rw [Application.surroundingsWithin_resolve]
        refine Maintains.bind (fun _ _ _ hw hget => ?_) fun u => ?_
        · exact (Prod.mk.inj hget).2.symm.trans hw
        · exact @Reference.resolve_related _ (Maintains.relates (· = w))
            ⟨u.catalogue, Application.look (Application.surroundingsWithin n)⟩
            ⟨u.catalogue, Application.look (Application.surroundingsWithin n)⟩ (h.maintains_look hfails) rfl v
      exact FieldConfig.load_maintains hresolve _ _ w config w' rfl hload

/-! ## What configures logging -/

theorem Act.of_perform_settings (h : settings.perform w = (.ok s, w')) : w'.settings = some s := by
  unfold settings at h
  rw [perform_bind_ok (perform_get w)] at h
  cases hs : w.settings with
  | some s' =>
    rw [hs] at h
    obtain ⟨hs', rfl⟩ := Prod.mk.inj h
    rw [hs, Except.ok.inj hs']
  | none =>
    rw [hs] at h
    obtain ⟨s', v, -, h⟩ := of_perform_bind_eq h
    obtain ⟨hs', rfl⟩ := Prod.mk.inj h
    rw [← Except.ok.inj hs']

/-- Logging is configured as one says if the level is a threshold. -/
theorem Act.perform_configureLogging {level : String} {n : Nat} (h : thresholdOf (Text.upper level) = .ok n)
    (layout : Layout) (w : World) : (configureLogging level layout).perform w =
      (.ok (), { w with logging := some ⟨Text.upper level, layout, n⟩, ownLogging := none }) := by
  have hconfigure : LoggingState.configure w.logging level layout = (some ⟨Text.upper level, layout, n⟩, .ok ()) := by
    unfold LoggingState.configure
    simp only [h]
  unfold configureLogging
  rw [perform_bind_ok (perform_get w), hconfigure]
  rfl

/-- Any other level is refused. -/
theorem Act.perform_configureLogging_error {level : String} {e : Failure}
    (h : thresholdOf (Text.upper level) = .error e) (layout : Layout) (w : World) :
    ((configureLogging level layout).perform w).1 = .error e := by
  unfold configureLogging
  rw [perform_bind_ok (perform_get w)]
  unfold LoggingState.configure
  simp only [h]
  cases w.logging <;> rfl

/-- To configure logging once more in the same way changes nothing. -/
theorem StructuredCore.configureLogging_idem (h : (configureLogging s).perform w = (.ok (), w')) :
    w'.settings = w.settings ∧ (configureLogging s).perform w' = (.ok (), w') := by
  unfold configureLogging at h ⊢
  obtain ⟨level, v, hgiven, h⟩ := of_perform_bind_eq h
  rw [perform_ofExcept] at hgiven
  obtain ⟨hlevel, rfl⟩ := Prod.mk.inj hgiven
  have hsame : (ofExcept (Level.ofValue (.text s.logging.level))).perform w' = (.ok level, w') := by
    rw [perform_ofExcept, hlevel]
  rw [perform_bind_ok hsame]
  cases hn : thresholdOf (Text.upper level.name) with
  | error e =>
    have herror := congrArg Prod.fst h
    rw [perform_configureLogging_error hn] at herror
    cases herror
  | ok n =>
    rw [perform_configureLogging hn] at h ⊢
    obtain ⟨-, rfl⟩ := Prod.mk.inj h
    exact ⟨rfl, rfl⟩

/-! ## The surroundings of an application -/

namespace Application

/-- Looking at a part of the application makes the application's own facade grow at most. -/
theorem look_evolves {env : Surroundings} (h : env.Orderly) (part : Live) : Keeps (Evolves none) (look env part) := by
  by_cases hcore : part = .core
  · subst hcore
    refine Keeps.bind Keeps.get fun _ => Facade.own_bind fun n => ?_
    exact Keeps.bind (fun w => (Facade.demandCore_evolves h n w).1) fun c => keeps_coreType c
  by_cases hpipeline : part = .pipeline
  · subst hpipeline
    refine Keeps.bind Keeps.get fun _ => Facade.own_bind fun n => ?_
    exact Keeps.bind (Keeps.discard fun w => (Facade.demandPipeline_evolves h n w).1) fun _ => Keeps.pure _
  · exact (look_stays env hcore hpipeline).mono fun w w' hw => hw ▸ refl_of (Evolves none) w

/-- A core that is made has not been made by the way meanwhile. -/
theorem made (n : Nat) (hresolve : ∀ v, Keeps (Evolves none) ((surroundingsWithin n).resolve v)) {c : Nat}
    (hf : w.facades.get? id = some f) (hcore : f.core = none)
    (h : (StructuredCore.create (surroundingsWithin n).resolve f.config).perform w = (.ok c, w')) :
    w'.facades.get? id = some f := by
  obtain ⟨s, w₁, hsettings, h⟩ := of_perform_bind_eq h
  obtain ⟨u, w₂, hconfigured, h⟩ := of_perform_bind_eq h
  obtain ⟨fields, w₃, hchosen, h⟩ := of_perform_bind_eq h
  obtain ⟨-, rfl⟩ := Prod.mk.inj h
  have hread := elsewhere_settings w
  have hlogging := StructuredCore.elsewhere_configureLogging s w₁
  rw [hsettings] at hread
  rw [hconfigured] at hlogging
  have hf₂ : w₂.facades.get? id = some f := by rw [hlogging.facades, hread.facades, hf]
  show w₃.facades.get? id = some f
  by_cases hown : w₂.ownFacade = some id
  · -- the application's own facade: nothing that can be read makes its core
    suffices hsame : w₃ = w₂ by rw [hsame, hf₂]
    unfold StructuredCore.chooseFields at hchosen
    cases hconfig : f.config with
    | some config =>
      rw [hconfig] at hchosen
      exact (Prod.mk.inj hchosen).2.symm
    | none =>
      rw [hconfig] at hchosen
      dsimp only at hchosen
      split at hchosen
      · exact (Prod.mk.inj hchosen).2.symm
      · next hpath =>
        rw [perform_bind_ok (perform_get w₂)] at hchosen
        obtain ⟨hkept, hagain⟩ := StructuredCore.configureLogging_idem hconfigured
        have hlacks : w₂.Lacks s id f :=
          ⟨hkept.trans (of_perform_settings hsettings), hagain, hown, hf₂, hcore, hconfig⟩
        exact hlacks.load_stays (Bool.eq_false_iff.2 hpath) n hchosen
  · -- any other facade: nothing that is read concerns it
    have hkept := StructuredCore.keeps_chooseFields hresolve f.config s.network w₂
    rw [hchosen] at hkept
    obtain ⟨f', hf', -, hsame⟩ := hkept.growth.facades id f hf₂
    rw [hf', hsame hown (Option.some_ne_none id).symm]

/-- **The surroundings of an application are orderly.** -/
theorem surroundingsWithin_orderly (n : Nat) : (surroundingsWithin n).Orderly := by
  induction n with
  | zero =>
    have hresolve (v : Value) : Keeps (Evolves none) ((surroundingsWithin 0).resolve v) := Keeps.throw _
    exact ⟨rfl, fun _ _ _ w => refl_of (Evolves none) w, hresolve, fun w id f c w' hf hcore h =>
      made 0 hresolve hf hcore h⟩
  | succ n ih =>
    have hresolve (v : Value) : Keeps (Evolves none) ((surroundingsWithin (n + 1)).resolve v) := by
      rw [surroundingsWithin_resolve]
      refine Keeps.bind Keeps.get fun w => ?_
      exact @Reference.resolve_related _ (Relates.keeps (Evolves none)) ⟨w.catalogue, look (surroundingsWithin n)⟩
        ⟨w.catalogue, look (surroundingsWithin n)⟩ (look_evolves ih) rfl v
    exact ⟨rfl, fun parties f record w => call_evolves ih parties f record w, hresolve, fun w id f c w' hf hcore h =>
      made (n + 1) hresolve hf hcore h⟩

theorem orderly : surroundings.Orderly := surroundingsWithin_orderly deepest

end Application

end ActivityLog
