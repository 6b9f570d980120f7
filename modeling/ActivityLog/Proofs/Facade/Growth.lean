import ActivityLog.Proofs.Core.Elsewhere

/-!
# How facades grow

A facade gets its core and its pipeline when they are first needed, perhaps in the middle of something else: a reference
may look at the application's own facade, and so may a function. What all this has in common is `Growth`: pipelines
stay, facades keep what they have and may get what they lack, and those that nobody asked for do not change at all. The
invariant is `World.Tied`: a pipeline that a facade has is one for its core and its fields.
-/

namespace ActivityLog

open Act

/-- The same fields, and the core and the pipeline that were there. -/
structure Facade.Grown (f f' : Facade) : Prop where
  config : f'.config = f.config
  core : ∀ c, f.core = some c → f'.core = some c
  pipeline : ∀ i, f.pipeline = some i → f'.pipeline = some i

namespace World

/-- The pipeline is one for the core and the fields of the facade, or the fields of the core if the facade has none. -/
structure Fits (w : World) (f : Facade) (p : Pipeline) : Prop where
  core : f.core = some p.core
  config : f.config.or (w.fieldsOf? p.core) = some p.config
  level : p.level = Pipeline.defaultLevel

/-- The pipeline that a facade has, if any, is there and fits. -/
def Serves (w : World) (f : Facade) : Prop := ∀ i, f.pipeline = some i → ∃ p, w.pipelines.get? i = some p ∧ w.Fits f p

/-- **The invariant of facades**: the pipelines that they have fit. -/
def Tied (w : World) : Prop := ∀ n f, w.facades.get? n = some f → w.Serves f

end World

/-- Pipelines and the fields of cores stay. Facades grow at most, and only the application's own one and the one that is
asked for; which is the application's own one does not change. Where pipelines fit they go on to do so. -/
structure Growth (asked : Option Nat) (w w' : World) : Prop where
  pipelines : ∀ i p, w.pipelines.get? i = some p → w'.pipelines.get? i = some p
  fields : ∀ c x, w.fieldsOf? c = some x → w'.fieldsOf? c = some x
  own : ∀ n, w.ownFacade = some n → w'.ownFacade = some n
  fresh : w.ownFacade = none → ∀ n, w'.ownFacade = some n → w.facades.get? n = none
  facades : ∀ n f, w.facades.get? n = some f → ∃ f', w'.facades.get? n = some f' ∧ f.Grown f' ∧
    (w.ownFacade ≠ some n → asked ≠ some n → f' = f)
  tied : w.Tied → w'.Tied

/-- Facades grow at most, logs keep their states, and no record is handed over. -/
structure Evolves (asked : Option Nat) (w w' : World) : Prop where
  quiet : Quiet (fun _ => True) none w w'
  growth : Growth asked w w'

variable {asked : Option Nat} {w w' w'' : World} {id : Nat} {f f' f'' : Facade} {p : Pipeline}

/-! ## Facades -/

namespace Facade.Grown

theorem refl (f : Facade) : f.Grown f := ⟨rfl, fun _ h => h, fun _ h => h⟩

theorem trans (h : f.Grown f') (h' : f'.Grown f'') : f.Grown f'' :=
  ⟨h'.config.trans h.config, fun c hc => h'.core c (h.core c hc), fun i hi => h'.pipeline i (h.pipeline i hi)⟩

/-- A facade that has all it needs does not change. -/
theorem eq_of_isSome (h : f.Grown f') (hc : f.core.isSome) (hp : f.pipeline.isSome) : f' = f := by
  obtain ⟨c, hc⟩ := Option.isSome_iff_exists.1 hc
  obtain ⟨i, hi⟩ := Option.isSome_iff_exists.1 hp
  obtain ⟨core, config, pipeline⟩ := f
  obtain ⟨core', config', pipeline'⟩ := f'
  obtain rfl : config' = config := h.config
  obtain rfl : core = some c := hc
  obtain rfl : pipeline = some i := hi
  obtain rfl : core' = some c := h.core c rfl
  obtain rfl : pipeline' = some i := h.pipeline i rfl
  rfl

end Facade.Grown

namespace World

theorem Fits.mono (h : w.Fits f p) (hfields : ∀ c x, w.fieldsOf? c = some x → w'.fieldsOf? c = some x) :
    w'.Fits f p := by
  refine ⟨h.core, ?_, h.level⟩
  have hconfig := h.config
  cases hf : f.config with
  | some x => simpa [hf] using hconfig
  | none =>
    rw [hf, Option.none_or] at hconfig
    rw [Option.none_or, hfields _ _ hconfig]

theorem Serves.mono (h : w.Serves f) (hpipelines : ∀ i p, w.pipelines.get? i = some p → w'.pipelines.get? i = some p)
    (hfields : ∀ c x, w.fieldsOf? c = some x → w'.fieldsOf? c = some x) : w'.Serves f := by
  intro i hi
  obtain ⟨p, hp, hfits⟩ := h i hi
  exact ⟨p, hpipelines i p hp, hfits.mono hfields⟩

/-- A facade without a pipeline has none that could not fit. -/
theorem serves_of_none (h : f.pipeline = none) : w.Serves f := by
  intro i hi
  rw [h] at hi
  cases hi

/-- Where no facade has a pipeline yet all are tied to theirs. -/
theorem tied_of_none (h : ∀ n f, w.facades.get? n = some f → f.pipeline = none) : w.Tied :=
  fun n f hf => serves_of_none (h n f hf)

/-- A facade whose pipeline fits has a core if it has a pipeline. -/
theorem Serves.pipeline_eq_none (h : w.Serves f) (hc : f.core = none) : f.pipeline = none := by
  cases hi : f.pipeline with
  | none => rfl
  | some i =>
    obtain ⟨p, -, hfits⟩ := h i hi
    rw [hfits.core] at hc
    cases hc

/-- A further facade without a pipeline is of no matter. -/
theorem Tied.addFacade (h : w.Tied) (hf : f.pipeline = none) (hfacades : w'.facades = w.facades.add f)
    (hpipelines : w'.pipelines = w.pipelines) (hcores : w'.cores = w.cores) : w'.Tied := by
  intro n g hg
  rw [hfacades, Table.get?_add] at hg
  split at hg
  · exact serves_of_none (Option.some.inj hg ▸ hf)
  · refine (h n g hg).mono (fun i p hp => by rw [hpipelines, hp]) fun c x hx => ?_
    rw [← hx, fieldsOf?, fieldsOf?, hcores]

end World

/-! ## States -/

namespace Growth

/-- Logs, hosts and whatever else is none of a facade's business may change. -/
theorem of_same (hp : w'.pipelines = w.pipelines) (hf : w'.facades = w.facades) (ho : w'.ownFacade = w.ownFacade)
    (hfields : ∀ c, w'.fieldsOf? c = w.fieldsOf? c) : Growth asked w w' := by
  have hpipelines (i : Nat) (p : Pipeline) (h : w.pipelines.get? i = some p) : w'.pipelines.get? i = some p := by
    rw [hp, h]
  have hmore (c : Nat) (x : FieldConfig) (h : w.fieldsOf? c = some x) : w'.fieldsOf? c = some x := by rw [hfields, h]
  refine ⟨hpipelines, hmore, fun n hn => by rw [ho, hn], fun hnone n hn => ?_, fun n f h => ?_, fun ht n f h => ?_⟩
  · rw [ho, hnone] at hn
    cases hn
  · exact ⟨f, by rw [hf, h], .refl f, fun _ _ => rfl⟩
  · rw [hf] at h
    exact (ht n f h).mono hpipelines hmore

protected theorem trans (h : Growth asked w w') (h' : Growth asked w' w'') : Growth asked w w'' := by
  refine ⟨fun i p hp => h'.pipelines i p (h.pipelines i p hp), fun c x hx => h'.fields c x (h.fields c x hx),
    fun n hn => h'.own n (h.own n hn), fun hnone n hn => ?fresh, fun n f hf => ?facades, fun ht => h'.tied (h.tied ht)⟩
  case fresh =>
    cases ho : w'.ownFacade with
    | some m =>
      obtain rfl : m = n := Option.some.inj ((h'.own m ho).symm.trans hn)
      exact h.fresh hnone m ho
    | none =>
      have hlater := h'.fresh ho n hn
      cases hf : w.facades.get? n with
      | none => rfl
      | some f =>
        obtain ⟨f', hf', -⟩ := h.facades n f hf
        rw [hlater] at hf'
        cases hf'
  case facades =>
    obtain ⟨f', hf', hgrown, hsame⟩ := h.facades n f hf
    obtain ⟨f'', hf'', hgrown', hsame'⟩ := h'.facades n f' hf'
    refine ⟨f'', hf'', hgrown.trans hgrown', fun hown hasked => ?_⟩
    have hown' : w'.ownFacade ≠ some n := by
      intro hn
      cases ho : w.ownFacade with
      | none =>
        rw [h.fresh ho n hn] at hf
        cases hf
      | some m => exact hown (ho.trans ((h.own m ho).symm.trans hn))
    rw [hsame' hown' hasked, hsame hown hasked]

instance : IsPreorder World (Growth asked) where
  refl _ := of_same rfl rfl rfl fun _ => rfl
  trans _ _ _ := Growth.trans

/-- Who is asked for is of no matter if nobody is. -/
theorem mono (h : Growth none w w') : Growth asked w w' where
  pipelines := h.pipelines
  fields := h.fields
  own := h.own
  fresh := h.fresh
  facades n f hf := by
    obtain ⟨f', hf', hgrown, hsame⟩ := h.facades n f hf
    exact ⟨f', hf', hgrown, fun hown _ => hsame hown (Option.some_ne_none n).symm⟩
  tied := h.tied

/-- Asking for the application's own facade is nothing special. -/
theorem of_own (h : Growth (some id) w w') (ho : w.ownFacade = some id) : Growth none w w' where
  pipelines := h.pipelines
  fields := h.fields
  own := h.own
  fresh := h.fresh
  facades n f hf := by
    obtain ⟨f', hf', hgrown, hsame⟩ := h.facades n f hf
    exact ⟨f', hf', hgrown, fun hown _ => hsame hown (ho ▸ hown)⟩
  tied := h.tied

end Growth

namespace Evolves

theorem mono (h : Evolves none w w') : Evolves asked w w' := ⟨h.quiet, h.growth.mono⟩

theorem of_own (h : Evolves (some id) w w') (ho : w.ownFacade = some id) : Evolves none w w' :=
  ⟨h.quiet, h.growth.of_own ho⟩

instance : IsPreorder World (Evolves asked) where
  refl w := ⟨refl_of (Quiet _ none) w, refl_of (Growth asked) w⟩
  trans _ _ _ h h' := ⟨trans_of (Quiet _ none) h.quiet h'.quiet, h.growth.trans h'.growth⟩

end Evolves

theorem Elsewhere.evolves (h : Elsewhere w w') : Evolves asked w w' :=
  ⟨h.quiet, .of_same h.pipelines h.facades h.ownFacade h.fields⟩

/-! ## What facades are made of -/

namespace Evolves

theorem addCore (c : CoreData) : Evolves asked w { w with cores := w.cores.add c } := by
  have hfields (n : Nat) (x : FieldConfig) (h : w.fieldsOf? n = some x) :
      ({ w with cores := w.cores.add c } : World).fieldsOf? n = some x := by
    unfold World.fieldsOf? at h ⊢
    obtain ⟨d, hd, rfl⟩ := Option.map_eq_some_iff.1 h
    rw [Table.get?_add_of_eq_some hd, Option.map_some]
  refine ⟨.of_same rfl rfl rfl, fun _ _ h => h, hfields, fun _ h => h, fun hnone n hn => ?_, fun n f hf => ?_,
    fun ht n f hf => (ht n f hf).mono (fun _ _ h => h) hfields⟩
  · rw [hnone] at hn
    cases hn
  · exact ⟨f, hf, .refl f, fun _ _ => rfl⟩

theorem addPipeline (p : Pipeline) : Evolves asked w { w with pipelines := w.pipelines.add p } := by
  have hpipelines (i : Nat) (q : Pipeline) (h : w.pipelines.get? i = some q) :
      (w.pipelines.add p).get? i = some q := Table.get?_add_of_eq_some h p
  refine ⟨⟨⟨hpipelines, fun _ _ _ _ _ _ _ => trivial, fun n l hl => ⟨l.record, l.state, hl, fun _ => rfl⟩⟩, rfl⟩,
    hpipelines, fun _ _ h => h, fun _ h => h, fun hnone n hn => ?_, fun n f hf => ?_,
    fun ht n f hf => (ht n f hf).mono hpipelines fun _ _ h => h⟩
  · rw [hnone] at hn
    cases hn
  · exact ⟨f, hf, .refl f, fun _ _ => rfl⟩

/-- A further facade has no pipeline yet. -/
theorem addFacade (hf : f.pipeline = none) : Evolves asked w { w with facades := w.facades.add f } := by
  refine ⟨.of_same rfl rfl rfl, fun _ _ h => h, fun _ _ h => h, fun _ h => h, fun hnone n hn => ?_, fun n g hg => ?_,
    fun ht => ht.addFacade hf rfl rfl rfl⟩
  · rw [hnone] at hn
    cases hn
  · exact ⟨g, Table.get?_add_of_eq_some hg _, .refl g, fun _ _ => rfl⟩

/-- The application gets its own facade. -/
theorem addOwn (ho : w.ownFacade = none) :
    Evolves asked w { w with facades := w.facades.add {}, ownFacade := some w.facades.next } := by
  refine ⟨.of_same rfl rfl rfl, fun _ _ h => h, fun _ _ h => h, fun n hn => ?_, fun _ n hn => ?_, fun n f hf => ?_,
    fun ht => ht.addFacade rfl rfl rfl rfl⟩
  · rw [ho] at hn
    cases hn
  · rw [← Option.some.inj hn]
    exact Table.get?_next _
  · exact ⟨f, Table.get?_add_of_eq_some hf _, .refl f, fun _ _ => rfl⟩

/-- The facade that is asked for gets what it lacks. -/
theorem changeFacade {change : Facade → Facade} (hf : w.facades.get? id = some f) (hgrown : f.Grown (change f))
    (hserves : w.Tied → w.Serves (change f)) :
    Evolves (some id) w { w with facades := w.facades.modify id change } := by
  refine ⟨.of_same rfl rfl rfl, fun _ _ h => h, fun _ _ h => h, fun _ h => h, fun hnone n hn => ?_, fun n g hg => ?_,
    fun ht n g hg => ?_⟩
  · rw [hnone] at hn
    cases hn
  · by_cases hn : id = n
    · subst hn
      obtain rfl := Option.some.inj (hf.symm.trans hg)
      exact ⟨change f, by rw [Table.get?_modify, if_pos rfl, hf, Option.map_some], hgrown,
        fun _ hasked => absurd rfl hasked⟩
    · exact ⟨g, by rw [Table.get?_modify, if_neg hn, hg], .refl g, fun _ _ => rfl⟩
  · rw [Table.get?_modify] at hg
    split at hg
    · next hn =>
      subst hn
      rw [hf, Option.map_some] at hg
      exact Option.some.inj hg ▸ (hserves ht).mono (fun _ _ h => h) fun _ _ h => h
    · exact (ht n g hg).mono (fun _ _ h => h) fun _ _ h => h

end Evolves

end ActivityLog
