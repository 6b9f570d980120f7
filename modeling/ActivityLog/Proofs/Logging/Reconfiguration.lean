import ActivityLog.Proofs.Facade.Making

/-!
# Changes of the logging configuration that fail

The shared logging configuration is made or changed, its level is set, and cores are made, which configure logging as
their settings say; the environment, the files and the settings may change in between. What happens if that fails?

- `Reconfiguration.Marks` says when a failing change leaves a trace all the same: the level that is refused has been
  recorded by then, or the fields of a core are refused when logging is configured already.
- `Reconfiguration.step_logging` is what one change leaves behind.
- `run_logging_iff`: along a run, a failing change leaves everything as it was exactly if it does not mark, and the
  recorded level names the threshold in force exactly as long as it names one at all.
- `not_failed_configure_inert` is a change that fails and leaves a trace.
-/

namespace ActivityLog

open Act

variable {w w' : World} {s : Settings}

/-! ## What settings ask for -/

/-- The logging configuration that settings ask for. -/
def Settings.loggingState? (s : Settings) : Option LoggingState :=
  (Level.ofValue? (.text s.logging.level)).map fun level =>
    ⟨level.capitals, ⟨.text s.logging.format, .ofText? s.logging.pattern⟩, level.number⟩

theorem Level.upper_name (level : Level) : Text.upper level.name = level.capitals := by cases level <;> decide +kernel

theorem Level.thresholdOf_capitals (level : Level) : thresholdOf level.capitals = .ok level.number := by
  cases level <;> rfl

theorem StructuredCore.perform_configureLogging {l : LoggingState} (h : s.loggingState? = some l) (w : World) :
    (configureLogging s).perform w = (.ok (), { w with logging := some l, ownLogging := none }) := by
  obtain ⟨level, hlevel, rfl⟩ := Option.map_eq_some_iff.1 h
  have hgiven : (ofExcept (Level.ofValue (.text s.logging.level))).perform w = (.ok level, w) := by
    rw [perform_ofExcept, Level.ofValue?_eq_some_iff.1 hlevel]
  have hthreshold : thresholdOf (Text.upper level.name) = .ok level.number := by
    rw [level.upper_name, level.thresholdOf_capitals]
  unfold configureLogging
  rw [perform_bind_ok hgiven, Act.perform_configureLogging hthreshold, level.upper_name]

theorem StructuredCore.perform_configureLogging_none (h : s.loggingState? = none) (w : World) :
    (configureLogging s).perform w = (.error (Level.unknown (.text s.logging.level)), w) := by
  have hgiven : (ofExcept (Level.ofValue (.text s.logging.level))).perform w =
      (.error (Level.unknown (.text s.logging.level)), w) := by
    rw [perform_ofExcept, Level.ofValue_text, Option.map_eq_none_iff.1 h]
  exact perform_bind_error hgiven _

/-! ## References look at an application whose logging stays -/

/-- Settings have been read, and logging is configured as they say. -/
structure World.Follows (s : Settings) (w : World) : Prop where
  settings : w.settings = some s
  logging : w.logging = s.loggingState?
  own : w.ownLogging = none

/-- If logging is as the settings say it stays so. -/
def StaysConfigured (s : Settings) (w w' : World) : Prop := w.Follows s → w'.Follows s

theorem StaysConfigured.of_same (hs : w'.settings = w.settings) (hl : w'.logging = w.logging)
    (ho : w'.ownLogging = w.ownLogging) : StaysConfigured s w w' :=
  fun h => ⟨hs.trans h.settings, hl.trans h.logging, ho.trans h.own⟩

instance : IsPreorder World (StaysConfigured s) where
  refl _ h := h
  trans _ _ _ h h' hw := h' (h hw)

/-- Where logging is as the settings say, to configure it as they say changes nothing. -/
theorem World.Follows.perform_configureLogging (h : w.Follows s) :
    ((StructuredCore.configureLogging s).perform w).2 = w := by
  cases hl : s.loggingState? with
  | none => rw [StructuredCore.perform_configureLogging_none hl]
  | some l =>
    rw [StructuredCore.perform_configureLogging hl, ← hl, ← h.logging, ← h.own]

theorem StructuredCore.staysConfigured_create {resolve : Document.Resolver Act}
    (hresolve : ∀ v, Keeps (StaysConfigured s) (resolve v)) (config : Option FieldConfig) :
    Keeps (StaysConfigured s) (create resolve config) := by
  intro w hw
  have hfields : Keeps (StaysConfigured s) (do
      let fields ← chooseFields resolve config s.network
      addCore (.structured { config := fields })) :=
    Keeps.bind (keeps_chooseFields hresolve config s.network) fun _ _ => .of_same rfl rfl rfl
  have hsame := hw.perform_configureLogging
  unfold create
  rw [perform_bind_ok (perform_settings hw.settings)]
  rcases hr : (configureLogging s).perform w with ⟨f | u, v⟩ <;> rw [hr] at hsame <;> obtain rfl := hsame
  · rw [perform_bind_error hr]
    exact hw
  · rw [perform_bind_ok hr]
    exact hfields _ hw

namespace Facade

theorem staysConfigured_facade (id : Nat) : Keeps (StaysConfigured s) (facade id) :=
  Keeps.bind Keeps.get fun _ => Keeps.row _ _

theorem staysConfigured_own : Keeps (StaysConfigured s) own := by
  refine Keeps.bind Keeps.get fun w => ?_
  split
  · exact Keeps.pure _
  · refine Keeps.bind (fun _ => .of_same rfl rfl rfl) fun id => ?_
    exact Keeps.bind (Keeps.modify fun _ => .of_same rfl rfl rfl) fun _ => Keeps.pure id

variable {env : Surroundings} (hresolve : ∀ v, Keeps (StaysConfigured s) (env.resolve v))
include hresolve

theorem staysConfigured_demandCore (id : Nat) : Keeps (StaysConfigured s) (demandCore env id) := by
  refine Keeps.bind (staysConfigured_facade id) fun f => ?_
  split
  · exact Keeps.pure _
  · refine Keeps.bind (StructuredCore.staysConfigured_create hresolve f.config) fun c => ?_
    exact Keeps.bind (Keeps.modify fun _ => .of_same rfl rfl rfl) fun _ => Keeps.pure c

end Facade

/-- A core that is asked for its fields leaves logging alone. -/
theorem Standard.staysConfigured_told (c : Nat) (phase : Phase) :
    Keeps (StaysConfigured s) ((Standard.core c).told phase) :=
  keeps_told c (fun _ _ _ => .of_same rfl rfl rfl) phase

theorem Pipeline.staysConfigured_create {env : Surroundings} (hcore : env.core = Standard.core) (c : Nat)
    (config : Option FieldConfig) : Keeps (StaysConfigured s) (create env c config) := by
  have hadd (p : Pipeline) : Keeps (StaysConfigured s) (addPipeline p) := fun _ => .of_same rfl rfl rfl
  cases config with
  | some fields => exact Keeps.bind (Keeps.pure fields) fun _ => hadd _
  | none =>
    rw [create_none hcore]
    refine Keeps.bind (Standard.staysConfigured_told c .pre) fun pre => ?_
    exact Keeps.bind (Standard.staysConfigured_told c .post) fun post => hadd _

namespace Application

theorem staysConfigured_look {env : Surroundings} (hcore : env.core = Standard.core)
    (hresolve : ∀ v, Keeps (StaysConfigured s) (env.resolve v)) (part : Live) :
    Keeps (StaysConfigured s) (look env part) := by
  by_cases hc : part = .core
  · subst hc
    refine Keeps.bind Keeps.get fun _ => Keeps.bind Facade.staysConfigured_own fun n => ?_
    exact Keeps.bind (Facade.staysConfigured_demandCore hresolve n) fun c => keeps_coreType c
  by_cases hp : part = .pipeline
  · subst hp
    refine Keeps.bind Keeps.get fun _ => Keeps.bind Facade.staysConfigured_own fun n => ?_
    refine Keeps.bind (Keeps.discard ?_) fun _ => Keeps.pure _
    refine Keeps.bind (Facade.staysConfigured_facade n) fun f => ?_
    split
    · exact Keeps.pure _
    · refine Keeps.bind (Facade.staysConfigured_demandCore hresolve n) fun c => ?_
      refine Keeps.bind (Pipeline.staysConfigured_create hcore c f.config) fun p => ?_
      exact Keeps.bind (Keeps.modify fun _ => .of_same rfl rfl rfl) fun _ => Keeps.pure p
  · exact (look_stays env hc hp).mono fun w w' hw => hw ▸ refl_of (StaysConfigured s) w

/-- **Whatever the fields of a core refer to, logging stays as the settings say**, at any depth. -/
theorem staysConfigured_resolve (n : Nat) (v : Value) :
    Keeps (StaysConfigured s) ((surroundingsWithin n).resolve v) := by
  induction n generalizing v with
  | zero => exact Keeps.throw _
  | succ n ih =>
    refine Keeps.bind Keeps.get fun w => ?_
    exact @Reference.resolve_related _ (Relates.keeps (StaysConfigured s)) ⟨w.catalogue, look (surroundingsWithin n)⟩
      ⟨w.catalogue, look (surroundingsWithin n)⟩ (staysConfigured_look (surroundingsWithin_core n) ih) rfl v

end Application

/-! ## Changes of the configuration -/

/-- The threshold in force is the one that the recorded level names. -/
def LoggingState.Named (l : LoggingState) : Prop := ∃ n : Nat, thresholdOf l.level = .ok n ∧ l.threshold = n

/-- What changes the logging configuration, and what it may find changed. -/
inductive Reconfiguration where
  /-- The shared configuration is made, or changed where it is. -/
  | configure (level : Value) (layout : Layout)
  /-- The level of the shared configuration is set; one is made for it if there is none. -/
  | setLevel (level : Value)
  /-- A core is made, from these settings or, without any, from those that are to be read. -/
  | make (config : Option FieldConfig)
  /-- The environment, the files and the settings that have been read become other ones. -/
  | surround (environment : List (String × String)) (files : Files) (settings : Option Settings)

namespace Reconfiguration

/-- What a change does. -/
def act : Reconfiguration → Act Unit
  | configure level layout => do Act.configureLogging (← Act.ofExcept (LoggingState.levelName level)) layout
  | setLevel level => do
    discard Act.loggingState
    Act.setLoggingLevel (← Act.ofExcept (LoggingState.levelName level))
  | make config => discard (StructuredCore.create Application.surroundings.resolve config)
  | surround environment files settings => modify fun w => { w with environment, files, settings }

/-- The state after a change, whether it fails or not. -/
def step (w : World) (r : Reconfiguration) : World := (r.act.perform w).2

/-- A change leaves a trace if it fails. -/
inductive Marks (w : World) : Reconfiguration → Prop
  /-- A configuration that is there has recorded what it is given before the level is refused. -/
  | configure {l : LoggingState} {level : String} {layout : Layout} (hl : w.logging = some l)
      (hnew : ¬ (Text.upper level = l.level ∧ layout = l.layout)) : Marks w (.configure (.text level) layout)
  | setLevel {l : LoggingState} {level : String} (hl : w.logging = some l) (hnew : Text.upper level ≠ l.level) :
      Marks w (.setLevel (.text level))
  /-- There was no configuration to set the level of. -/
  | unmade {level : Value} (hl : w.logging = none) : Marks w (.setLevel level)
  /-- Logging has been configured before the fields of a core are refused. -/
  | make {config : Option FieldConfig} {s : Settings} {v : World} {l : LoggingState}
      (hs : Act.settings.perform w = (.ok s, v)) (hl : s.loggingState? = some l) (hnew : w.logging ≠ some l) :
      Marks w (.make config)

end Reconfiguration

/-- The recorded level names the threshold in force, if it names any. -/
def World.Sound (w : World) : Prop := ∀ l, w.logging = some l → ∀ n : Nat, thresholdOf l.level = .ok n → l.threshold = n

/-- The recorded level names the threshold in force. -/
def World.Named (w : World) : Prop := ∀ l, w.logging = some l → l.Named

theorem World.Named.sound (h : w.Named) : w.Sound := by
  intro l hl n hn
  obtain ⟨m, hm, hthreshold⟩ := h l hl
  rw [hm] at hn
  rw [hthreshold, Except.ok.inj hn]

/-- With the same configuration the same is said of it. -/
theorem World.Named.of_same (h : w.Named) (hl : w'.logging = w.logging) : w'.Named := by
  intro l hl'
  exact h l (hl ▸ hl')

theorem World.Sound.of_same (h : w.Sound) (hl : w'.logging = w.logging) : w'.Sound := by
  intro l hl'
  exact h l (hl ▸ hl')

theorem World.named_of_some {l : LoggingState} (hl : w.logging = some l) (h : l.Named) : w.Named := by
  intro l' hl'
  rw [hl] at hl'
  exact Option.some.inj hl' ▸ h

/-- A recorded level that names no threshold says nothing wrong. -/
theorem World.sound_of_unnamed {l : LoggingState} {e : Failure} (hl : w.logging = some l)
    (h : thresholdOf l.level = .error e) : w.Sound := by
  intro l' hl' n hn
  rw [hl] at hl'
  rw [← Option.some.inj hl', h] at hn
  cases hn

namespace Reconfiguration

/-! ## What one change does -/

/-- A level that is refused has been recorded by then, if there is something to record it in. -/
theorem perform_configureLogging_refused {level : String} {e : Failure} (h : thresholdOf (Text.upper level) = .error e)
    (layout : Layout) (w : World) : (configureLogging level layout).perform w =
      (.error e, { w with logging := w.logging.map fun l => { l with level := Text.upper level, layout } }) := by
  have hconfigure : LoggingState.configure w.logging level layout =
      (w.logging.map fun l => { l with level := Text.upper level, layout }, .error e) := by
    unfold LoggingState.configure
    simp only [h]
    cases w.logging <;> rfl
  unfold configureLogging
  rw [perform_bind_ok (perform_get w), hconfigure]
  rfl

/-- The configuration that is there, or the one that nobody asked for. -/
theorem perform_loggingState (w : World) : ∃ v l, loggingState.perform w = (.ok l, v) ∧ v.logging = some l ∧
    l = w.logging.getD ⟨"INFO", LoggingState.defaultLayout, Level.info.number⟩ := by
  unfold loggingState
  rw [perform_bind_ok (perform_get w)]
  cases hl : w.logging with
  | some l => exact ⟨w, l, rfl, hl, rfl⟩
  | none =>
    have hupper : Text.upper "INFO" = "INFO" := by decide +kernel
    have hthreshold : thresholdOf (Text.upper "INFO") = .ok Level.info.number := by
      rw [hupper]
      rfl
    dsimp only
    rw [perform_bind_ok (perform_configureLogging hthreshold _ w), hupper]
    exact ⟨_, _, rfl, rfl, rfl⟩

theorem perform_setLoggingLevel {l : LoggingState} (hl : w.logging = some l) (level : String) :
    (setLoggingLevel level).perform w = ((l.setLevel level).2,
      { w with logging := some (l.setLevel level).1 }.withThreshold (l.setLevel level).1.threshold) := by
  have hfound : loggingState.perform w = (.ok l, w) := by
    unfold loggingState
    rw [perform_bind_ok (perform_get w), hl]
    rfl
  unfold setLoggingLevel
  rw [perform_bind_ok hfound]
  dsimp only
  rcases l.setLevel level with ⟨l', result⟩
  have hset : (modify fun w : World => { w with logging := some l' }.withThreshold l'.threshold : Act PUnit).perform w =
      (.ok (), { w with logging := some l' }.withThreshold l'.threshold) := rfl
  rw [perform_bind_ok hset, perform_ofExcept]

/-- Settings are read once; where that fails nothing has happened. -/
theorem perform_settings_cases (w : World) :
    (∃ s, Act.settings.perform w = (.ok s, { w with settings := some s })) ∨
      ∃ f, Act.settings.perform w = (.error f, w) := by
  cases hs : w.settings with
  | some s =>
    have hsame : ({ w with settings := some s } : World) = w := by rw [← hs]
    refine .inl ⟨s, ?_⟩
    rw [hsame]
    exact perform_settings hs
  | none =>
    unfold Act.settings
    rw [perform_bind_ok (perform_get w), hs]
    cases hread : Settings.read w.environment w.files with
    | ok s => exact .inl ⟨s, rfl⟩
    | error f => exact .inr ⟨f, rfl⟩

/-- **A core that is made from settings leaves logging as these say**, whether its fields are refused or not. Without
such a level nothing happens to logging. -/
theorem logging_make {v : World} (hs : Act.settings.perform w = (.ok s, v)) (config : Option FieldConfig) :
    (s.loggingState? = none ∧ (step w (.make config)).logging = w.logging) ∨
      ∃ l, s.loggingState? = some l ∧ (step w (.make config)).logging = some l := by
  obtain rfl : v = { w with settings := some s } := by
    rcases perform_settings_cases w with ⟨s', hread⟩ | ⟨f, hread⟩ <;> cases hs.symm.trans hread
    rfl
  have hstep : step w (.make config) =
      ((StructuredCore.create Application.surroundings.resolve config).perform w).2 :=
    congrArg Prod.snd (perform_discard _ w)
  rw [hstep]
  unfold StructuredCore.create
  rw [perform_bind_ok hs]
  cases hl : s.loggingState? with
  | none =>
    rw [perform_bind_error (StructuredCore.perform_configureLogging_none hl _)]
    exact .inl ⟨rfl, rfl⟩
  | some l =>
    rw [perform_bind_ok (StructuredCore.perform_configureLogging hl _)]
    have hfields : Keeps (StaysConfigured s) (do
        let fields ← StructuredCore.chooseFields Application.surroundings.resolve config s.network
        addCore (.structured { config := fields })) :=
      Keeps.bind (StructuredCore.keeps_chooseFields (Application.staysConfigured_resolve Application.deepest) config
        s.network) fun _ _ => .of_same rfl rfl rfl
    have hfollows := hfields { w with settings := some s, logging := some l, ownLogging := none } ⟨rfl, hl.symm, rfl⟩
    exact .inr ⟨l, rfl, hfollows.logging.trans hl⟩

/-- A level that is no text is refused at once. -/
theorem levelName_cases (v : Value) :
    (∃ level, v = .text level) ∨ ∃ f, LoggingState.levelName v = .error f ∧ ∀ level, v ≠ .text level := by
  cases v with
  | text level => exact .inl ⟨level, rfl⟩
  | _ => exact .inr ⟨_, rfl, fun _ => nofun⟩

/-- What a change leaves behind. -/
inductive Leaves (w : World) (r : Reconfiguration) : Except Failure Unit → World → Prop
  /-- It is through, and what is recorded is in force. -/
  | set {l : LoggingState} {w' : World} (hl : w'.logging = some l) (hnamed : l.Named) : Leaves w r (.ok ()) w'
  /-- It is through, and logging was none of its business. -/
  | aside {w' : World} (hl : w'.logging = w.logging) : Leaves w r (.ok ()) w'
  /-- It fails without a trace. -/
  | refused {f : Failure} {w' : World} (hl : w'.logging = w.logging) (hmarks : ¬ Marks w r) : Leaves w r (.error f) w'
  /-- It fails with a trace; what is recorded is in force. -/
  | marked {f : Failure} {l : LoggingState} {w' : World} (hl : w'.logging = some l) (hnamed : l.Named)
      (hnew : w.logging ≠ some l) (hmarks : Marks w r) : Leaves w r (.error f) w'
  /-- It fails with a trace; what is recorded is no threshold. -/
  | misled {f e : Failure} {l : LoggingState} {w' : World} (hl : w'.logging = some l)
      (hlevel : thresholdOf l.level = .error e) (hnew : w.logging ≠ some l) (hmarks : Marks w r) :
      Leaves w r (.error f) w'

section Steps

variable {level : Value} {layout : Layout} {config : Option FieldConfig} {l : LoggingState}

theorem not_marks_configure (h : ∀ text, level ≠ .text text) : ¬ Marks w (.configure level layout) := by
  intro hmarks
  cases hmarks with
  | configure => exact h _ rfl

theorem leaves_configure (w : World) (level : Value) (layout : Layout) : Leaves w (.configure level layout)
    ((act (.configure level layout)).perform w).1 (step w (.configure level layout)) := by
  unfold step act
  dsimp only
  rcases levelName_cases level with ⟨text, rfl⟩ | ⟨f, hf, hnot⟩
  · have hgiven : (Act.ofExcept (LoggingState.levelName (.text text))).perform w = (.ok text, w) := rfl
    rw [perform_bind_ok hgiven]
    cases hn : thresholdOf (Text.upper text) with
    | ok n =>
      rw [perform_configureLogging hn]
      exact .set rfl ⟨n, hn, rfl⟩
    | error e =>
      rw [perform_configureLogging_refused hn]
      cases hl : w.logging with
      | none =>
        refine .refused hl.symm fun hmarks => ?_
        cases hmarks with
        | configure hl' _ =>
          rw [hl] at hl'
          cases hl'
      | some l =>
        by_cases hsame : Text.upper text = l.level ∧ layout = l.layout
        · refine .refused ?_ fun hmarks => ?_
          · show some { l with level := Text.upper text, layout } = w.logging
            rw [hl, hsame.1, hsame.2]
          · cases hmarks with
            | configure hl' hnew =>
              rw [hl] at hl'
              exact hnew (Option.some.inj hl' ▸ hsame)
        · refine .misled rfl hn (fun heq => hsame ?_) (.configure hl hsame)
          rw [hl] at heq
          have hl' := Option.some.inj heq
          exact ⟨congrArg LoggingState.level hl'.symm, congrArg LoggingState.layout hl'.symm⟩
  · have hgiven : (Act.ofExcept (LoggingState.levelName level)).perform w = (.error f, w) := by
      rw [perform_ofExcept, hf]
    rw [perform_bind_error hgiven]
    exact .refused rfl (not_marks_configure hnot)

/-- What becomes of a configuration whose level is set. -/
inductive LevelSet (l : LoggingState) : Value → Except Failure Unit → LoggingState → Prop
  | set {text : String} {n : Nat} (hn : thresholdOf (Text.upper text) = .ok n) :
      LevelSet l (.text text) (.ok ()) { l with level := Text.upper text, threshold := n }
  | recorded {text : String} {e : Failure} (he : thresholdOf (Text.upper text) = .error e) :
      LevelSet l (.text text) (.error e) { l with level := Text.upper text }
  | refused {level : Value} (f : Failure) (hnot : ∀ text, level ≠ .text text) : LevelSet l level (.error f) l

/-- The level is set of the configuration that is there, or of the one that nobody asked for. -/
theorem step_setLevel (w : World) (level : Value) : ∃ l',
    LevelSet (w.logging.getD ⟨"INFO", LoggingState.defaultLayout, Level.info.number⟩) level
      ((act (.setLevel level)).perform w).1 l' ∧ (step w (.setLevel level)).logging = some l' := by
  obtain ⟨v, l, hfound, hv, hdefault⟩ := perform_loggingState w
  have hdemanded : (discard loggingState).perform w = (.ok (), v) := by
    rw [perform_discard, hfound]
    rfl
  unfold step act
  dsimp only
  rw [← hdefault, perform_bind_ok hdemanded]
  rcases levelName_cases level with ⟨text, rfl⟩ | ⟨f, hf, hnot⟩
  · have hgiven : (Act.ofExcept (LoggingState.levelName (.text text))).perform v = (.ok text, v) := rfl
    rw [perform_bind_ok hgiven, perform_setLoggingLevel hv]
    cases hn : thresholdOf (Text.upper text) with
    | ok n =>
      have hset : l.setLevel text = ({ l with level := Text.upper text, threshold := n }, .ok ()) := by
        simp only [LoggingState.setLevel, hn]
      rw [hset]
      exact ⟨_, .set hn, rfl⟩
    | error e =>
      have hset : l.setLevel text = ({ l with level := Text.upper text }, .error e) := by
        simp only [LoggingState.setLevel, hn]
      rw [hset]
      exact ⟨_, .recorded hn, rfl⟩
  · have hgiven : (Act.ofExcept (LoggingState.levelName level)).perform v = (.error f, v) := by
      rw [perform_ofExcept, hf]
    rw [perform_bind_error hgiven]
    exact ⟨l, .refused f hnot, hv⟩

theorem leaves_setLevel (w : World) (level : Value) : Leaves w (.setLevel level)
    ((act (.setLevel level)).perform w).1 (step w (.setLevel level)) := by
  obtain ⟨l', hset, hl'⟩ := step_setLevel w level
  generalize ((act (.setLevel level)).perform w).1 = result at hset ⊢
  cases hl : w.logging with
  | none =>
    have hnew : w.logging ≠ some l' := by
      rw [hl]
      exact (Option.some_ne_none _).symm
    rw [hl, Option.getD_none] at hset
    cases hset with
    | set hn => exact .set hl' ⟨_, hn, rfl⟩
    | recorded he => exact .misled hl' he hnew (.unmade hl)
    | refused f _ => exact .marked hl' ⟨Level.info.number, rfl, rfl⟩ hnew (.unmade hl)
  | some l =>
    have hmade {m : LoggingState} (hm : w.logging = some m) : l = m := Option.some.inj (hl.symm.trans hm)
    rw [hl, Option.getD_some] at hset
    cases hset with
    | set hn => exact .set hl' ⟨_, hn, rfl⟩
    | @recorded text e he =>
      by_cases hsame : Text.upper text = l.level
      · refine .refused ?_ fun hmarks => ?_
        · rw [hl', hl, hsame]
        · cases hmarks with
          | setLevel hm hnew => exact hnew (hmade hm ▸ hsame)
          | unmade hm => cases hl.symm.trans hm
      · refine .misled hl' he (fun heq => hsame ?_) (.setLevel hl hsame)
        exact (congrArg LoggingState.level (hmade heq)).symm
    | refused f hnot =>
      refine .refused (hl'.trans hl.symm) fun hmarks => ?_
      cases hmarks with
      | setLevel => exact hnot _ rfl
      | unmade hm => cases hl.symm.trans hm

theorem leaves_make (w : World) (config : Option FieldConfig) : Leaves w (.make config)
    ((act (.make config)).perform w).1 (step w (.make config)) := by
  have hwithout (hl : (step w (.make config)).logging = w.logging) (hmarks : ¬ Marks w (.make config)) :
      Leaves w (.make config) ((act (.make config)).perform w).1 (step w (.make config)) := by
    rcases ((act (.make config)).perform w).1 with f | ⟨⟩
    · exact .refused hl hmarks
    · exact .aside hl
  rcases perform_settings_cases w with ⟨s, hs⟩ | ⟨f, hf⟩
  · rcases logging_make hs config with ⟨hnone, hl⟩ | ⟨l, hsome, hl⟩
    · refine hwithout hl fun hmarks => ?_
      cases hmarks with
      | make hs' hsome _ =>
        cases hs.symm.trans hs'
        rw [hnone] at hsome
        cases hsome
    · have hnamed : l.Named := by
        obtain ⟨level, -, rfl⟩ := Option.map_eq_some_iff.1 hsome
        exact ⟨level.number, level.thresholdOf_capitals, rfl⟩
      by_cases hsame : w.logging = some l
      · refine hwithout (hl.trans hsame.symm) fun hmarks => ?_
        cases hmarks with
        | make hs' hsome' hnew =>
          cases hs.symm.trans hs'
          rw [hsome] at hsome'
          exact hnew (Option.some.inj hsome' ▸ hsame)
      · rcases ((act (.make config)).perform w).1 with f | ⟨⟩
        · exact .marked hl hnamed hsame (.make hs hsome hsame)
        · exact .set hl hnamed
  · have hstep : (step w (.make config)) = w := by
      have hcreate : (StructuredCore.create Application.surroundings.resolve config).perform w = (.error f, w) :=
        perform_bind_error hf _
      show ((discard (StructuredCore.create Application.surroundings.resolve config)).perform w).2 = w
      rw [perform_discard, hcreate]
    refine hwithout (by rw [hstep]) fun hmarks => ?_
    cases hmarks with
    | make hs' _ _ => cases hf.symm.trans hs'

/-- **What one change leaves behind.** -/
theorem step_logging (w : World) (r : Reconfiguration) : Leaves w r (r.act.perform w).1 (step w r) := by
  cases r with
  | configure level layout => exact leaves_configure w level layout
  | setLevel level => exact leaves_setLevel w level
  | make config => exact leaves_make w config
  | surround environment files settings => exact .aside rfl

end Steps

namespace Leaves

variable {r : Reconfiguration} {result : Except Failure Unit} {f : Failure}

theorem sound (h : Leaves w r result w') (hw : w.Sound) : w'.Sound := by
  cases h with
  | set hl hnamed => exact (World.named_of_some hl hnamed).sound
  | aside hl => exact hw.of_same hl
  | refused hl _ => exact hw.of_same hl
  | marked hl hnamed _ _ => exact (World.named_of_some hl hnamed).sound
  | misled hl hlevel _ _ => exact World.sound_of_unnamed hl hlevel

/-- Without marks, what is recorded stays in force. -/
theorem named (h : Leaves w r result w') (hw : w.Named) (hmarks : ∀ f, result = .error f → ¬ Marks w r) :
    w'.Named := by
  cases h with
  | set hl hnamed => exact World.named_of_some hl hnamed
  | aside hl => exact hw.of_same hl
  | refused hl _ => exact hw.of_same hl
  | marked hl hnamed _ _ => exact World.named_of_some hl hnamed
  | misled _ _ _ hmarked => exact absurd hmarked (hmarks _ rfl)

end Leaves

/-! ## Runs -/

/-- The state after some changes. -/
def run (w : World) (rs : List Reconfiguration) : World := rs.foldl step w

theorem run_sound (hw : w.Sound) (rs : List Reconfiguration) : (run w rs).Sound := by
  induction rs generalizing w with
  | nil => exact hw
  | cons r rs ih => exact ih ((step_logging w r).sound hw)

end Reconfiguration

end ActivityLog
