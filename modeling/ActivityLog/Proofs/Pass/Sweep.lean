import ActivityLog.Proofs.Record

/-!
# What a sweep does to one field

- The functions of descriptors (`functionsOf`), and what is asked of them: that they leave the record as they find it
  (`Surface.Spares`), and that what they give depends on the record's contents alone (`Surface.Answers`).
- One step of the sweep through look-ups: on the record (`step_get?`), on the queue of fallbacks (`step_queue_cases`)
  and on the references (`step_of_self`).
- `Sweep.Ordered`, the invariant of a sweep over any record (`run_ordered`), and `Sweep.Sound`, that over a record
  without absent values (`run_sound`).
- Fields of other names leave a name alone, in the record, in the queue and among the references (`foldl_sameAt`).
-/

namespace ActivityLog

variable {σ : Type}

/-! ## Functions of descriptors -/

/-- The functions that compute a source's value. -/
def Source.functions : Source → List FieldFunction
  | .time pre post => pre.toList ++ post.toList
  | _ => []

/-- The functions of a field, its fallback among them. -/
def Descriptor.functions (d : Descriptor) : List FieldFunction := d.source.functions ++ d.fallback.toList

/-- The functions of several fields. -/
def functionsOf (ds : List Descriptor) : List FieldFunction := ds.flatMap Descriptor.functions

/-- A field is a reference, or its source is something else. -/
theorem Descriptor.reference_or (d : Descriptor) :
    (∃ target, d.source = .self target) ∨ ∀ target, d.source ≠ .self target :=
  (Classical.em _).imp_right not_exists.1

theorem Descriptor.mem_functions_of_source {d : Descriptor} : ∀ f ∈ d.source.functions, f ∈ d.functions :=
  fun _ hf => List.mem_append_left _ hf

theorem mem_functionsOf {ds : List Descriptor} {d : Descriptor} {f : FieldFunction} (hd : d ∈ ds)
    (hf : f ∈ d.functions) : f ∈ functionsOf ds := List.mem_flatMap.2 ⟨d, hd, hf⟩

theorem functionsOf_mono {rest ds : List Descriptor} (h : ∀ d ∈ rest, d ∈ ds) :
    ∀ f ∈ functionsOf rest, f ∈ functionsOf ds := by
  intro f hf
  obtain ⟨d, hd, hfd⟩ := List.mem_flatMap.1 hf
  exact mem_functionsOf (h d hd) hfd

theorem Descriptor.mem_functions_of_fallback {d : Descriptor} {f : FieldFunction} (h : d.fallback = some f) :
    f ∈ d.functions := by simp [Descriptor.functions, h]

/-- The functions leave the record as they find it. -/
def Surface.Spares (env : Surface σ) (fs : List FieldFunction) : Prop :=
  ∀ f ∈ fs, ∀ record s, (env.call f record s).2.1 = record

/-- What the functions give is a matter of the record's contents, `given`, in all states of `I`; looking and calling
lead from `I` to `I`. -/
structure Surface.Answers (env : Surface σ) (I : σ → Prop) (given : FieldFunction → Record → Except Failure Value)
    (fs : List FieldFunction) : Prop where
  header : ∀ phase name s, I s → I (env.header phase name s).2
  field : ∀ phase name s, I s → I (env.field phase name s).2
  heard : ∀ s, I s → I (env.heard s).2
  call : ∀ f ∈ fs, ∀ record s, I s → I (env.call f record s).2.2
  gives : ∀ f ∈ fs, ∀ record s, I s → (env.call f record s).1 = given f record

theorem Surface.Spares.mono {env : Surface σ} {fs gs : List FieldFunction} (h : env.Spares fs)
    (hg : ∀ f ∈ gs, f ∈ fs) : env.Spares gs := fun f hf => h f (hg f hf)

theorem Surface.Answers.mono {env : Surface σ} {I : σ → Prop}
    {given : FieldFunction → Record → Except Failure Value} {fs gs : List FieldFunction} (h : env.Answers I given fs)
    (hg : ∀ f ∈ gs, f ∈ fs) : env.Answers I given gs :=
  ⟨h.header, h.field, h.heard, fun f hf => h.call f (hg f hf), fun f hf => h.gives f (hg f hf)⟩

/-! ## Primary values -/

/-- What a field holds once a source has given its value: nothing if that is absent or could not be had, and what it
held before if the source writes nothing in this phase. -/
def Primary.onto (result : Except Failure Primary) (before : Option Value) : Option Value :=
  match result with
  | .ok (.value v) => v.toOption
  | .ok .unresolved => before
  | .error _ => none

theorem Source.primary_record {env : Surface σ} {src : Source} (h : env.Spares src.functions) (phase : Phase)
    (record : Record) (s : σ) : (src.primary env phase record s).2.1 = record := by
  rcases src with _ | _ | _ | _ | ⟨_ | _, _ | _⟩ | _ <;> cases phase <;> first
    | rfl
    | exact h _ (by simp [Source.functions]) _ _

theorem Source.primary_state {env : Surface σ} {I : σ → Prop} {given : FieldFunction → Record → Except Failure Value}
    {src : Source} (h : env.Answers I given src.functions) (phase : Phase) (record : Record) {s : σ} (hs : I s) :
    I (src.primary env phase record s).2.2 := by
  rcases src with name | _ | name | _ | ⟨_ | _, _ | _⟩ | _ <;> cases phase <;> first
    | exact hs
    | exact h.header _ _ _ hs
    | exact h.field _ _ _ hs
    | exact h.call _ (by simp [Source.functions]) _ _ hs

/-! ## Mandatory fields -/

/-- What a mandatory field gets at once if it has no value. -/
def Descriptor.defaulted (d : Descriptor) : Option Value := if d.mandatory then d.default.toOption else none

/-- Whether a field that holds `held` has to wait for its fallback. -/
def Descriptor.Waits (d : Descriptor) (held : Option Value) : Prop :=
  d.mandatory = true ∧ held = none ∧ d.default = .null

variable {phase : Phase} {d : Descriptor} {record : Record} {queue : FallbackQueue}

theorem applyDefaults_get?_of_ne {name : String} (h : name ≠ d.name) :
    (applyDefaults phase d record queue).1.get? name = record.get? name := by
  unfold applyDefaults
  split
  · rfl
  · split
    · exact OrderedMap.get?_insert_of_ne _ _ h
    · rfl

theorem applyDefaults_get? (hr : record.Clean) (name : String) :
    (applyDefaults phase d record queue).1.get? name =
      if name = d.name then (record.get? name).or d.defaulted else record.get? name := by
  by_cases hn : name = d.name
  · subst hn
    unfold applyDefaults Descriptor.defaulted
    rw [if_pos rfl]
    cases hm : d.mandatory
    · simp
    · by_cases hv : record.value d.name = .null
      · have hg : record.get? d.name = none := hr.value_eq_null_iff.1 hv
        by_cases hd : d.default = .null
        · simp [hv, hd, hg, Value.isNull, Value.toOption]
        · simp [hv, hg, Value.toOption_of_ne hd, Value.isNull]
      · obtain ⟨v, hg⟩ := Option.ne_none_iff_exists'.1 (mt hr.value_eq_null_iff.2 hv)
        simp [Value.isNull_eq_false_iff.2 hv, hg]
  · rw [if_neg hn, applyDefaults_get?_of_ne hn]

theorem applyDefaults_clean (hr : record.Clean) : (applyDefaults phase d record queue).1.Clean := by
  unfold applyDefaults
  split
  · exact hr
  · split
    · next h => exact hr.insert _ (Value.isNull_eq_false_iff.1 (by simpa using h))
    · exact hr

/-- Filling in a field puts nothing off but its own fallback. -/
theorem applyDefaults_queue_cases (phase : Phase) (d : Descriptor) (record : Record) (queue : FallbackQueue) :
    (applyDefaults phase d record queue).2.1 = queue ∨
      (applyDefaults phase d record queue).2.1 = queue.insert d.name d.fallback := by
  unfold applyDefaults
  split
  · exact .inl rfl
  · split
    · exact .inl rfl
    · exact .inr rfl

theorem applyDefaults_queue_of_waits (hr : record.Clean) (h : d.Waits (record.get? d.name)) :
    (applyDefaults phase d record queue).2.1 = queue.insert d.name d.fallback := by
  obtain ⟨hm, hg, hd⟩ := h
  simp [applyDefaults, hm, hr.value_eq_null_iff.2 hg, hd, Value.isNull]

theorem applyDefaults_queue_of_not_waits (hr : record.Clean) (h : ¬d.Waits (record.get? d.name)) :
    (applyDefaults phase d record queue).2.1 = queue := by
  unfold applyDefaults
  split
  · rfl
  · next hm =>
    split
    · rfl
    · next hd =>
      simp only [Bool.or_eq_true, Bool.not_eq_true', not_or, Bool.not_eq_false, Value.isNull_iff] at hm hd
      exact absurd ⟨hm.1, hr.value_eq_null_iff.1 hm.2, hd⟩ h

/-- A field that need not be there is not filled in. -/
theorem applyDefaults_of_optional (hm : d.mandatory = false) :
    applyDefaults phase d record queue = (record, queue, []) := by
  simp [applyDefaults, hm]

/-- A field that has a value is not filled in. -/
theorem applyDefaults_of_value (h : record.value d.name ≠ .null) :
    applyDefaults phase d record queue = (record, queue, []) := by
  unfold applyDefaults
  rw [if_pos (by simp [Value.isNull_eq_false_iff.2 h])]

/-- A mandatory field without a value gets its default at once. -/
theorem applyDefaults_of_default (hm : d.mandatory = true) (hnone : record.value d.name = .null)
    (hdefault : d.default ≠ .null) :
    applyDefaults phase d record queue = (record.store d.name d.default, queue, []) := by
  have hstore : record.store d.name d.default = record.insert d.name d.default :=
    if_neg (by rwa [Value.isNull_iff])
  rw [hstore]
  simp [applyDefaults, hm, hnone, Value.isNull]

/-- A mandatory field without a value and a default waits. -/
theorem applyDefaults_of_no_default (hm : d.mandatory = true) (hnone : record.value d.name = .null)
    (hdefault : d.default = .null) : applyDefaults phase d record queue =
      (record, queue.insert d.name d.fallback, [.fallingBack d.name phase]) := by
  simp [applyDefaults, hm, hnone, hdefault, Value.isNull]

namespace Sweep

/-! ## One step -/

theorem write_get? (name other : String) (result : Except Failure Primary) (record : Record) :
    (write phase name result record).1.get? other =
      if other = name then Primary.onto result (record.get? name) else record.get? other := by
  rcases result with e | v | _
  · exact OrderedMap.get?_store _ _ _ _
  · exact OrderedMap.get?_store _ _ _ _
  · by_cases h : other = name <;> simp [write, Primary.onto, h]

theorem write_clean (hr : record.Clean) (name : String) (result : Except Failure Primary) :
    (write phase name result record).1.Clean := by
  rcases result with e | v | _
  · exact hr.store _ _
  · exact hr.store _ _
  · exact hr

variable {env : Surface σ} {sw : Sweep σ}

/-- What a field's source gives at its turn. -/
def turn (env : Surface σ) (phase : Phase) (sw : Sweep σ) (d : Descriptor) : Except Failure Primary :=
  (d.source.primary env phase sw.record sw.state).1

/-- A field's record after its source has given a value, before it is filled in. -/
def written (env : Surface σ) (phase : Phase) (sw : Sweep σ) (d : Descriptor) : Record :=
  (write phase d.name (turn env phase sw d) sw.record).1

theorem step_of_self {target : String} (h : d.source = .self target) :
    step env phase sw d = { sw with aliases := sw.aliases.insert d.name target } := by
  simp only [step, h]

/-- A field that is no reference: its source is asked, what that gives is written, and defaults are applied. -/
theorem step_of_not_self (hs : ∀ target, d.source ≠ .self target) : step env phase sw d =
    let asked := d.source.primary env phase sw.record sw.state
    let heard := env.heard asked.2.2
    let given := write phase d.name asked.1 asked.2.1
    let filled := applyDefaults phase d given.1 (enqueueSpecial d sw.queue)
    { sw with
      record := filled.1
      state := heard.2
      queue := filled.2.1
      notes := sw.notes ++ heard.1 ++ given.2 ++ filled.2.2 } := by
  unfold step
  split
  · next h => exact absurd h (hs _)
  · rfl

/-- What a field that is no reference leaves in the record and in the queue: what is written, with defaults. -/
theorem step_filled (hd : env.Spares d.functions) (hs : ∀ target, d.source ≠ .self target) :
    let filled := applyDefaults phase d (written env phase sw d) (enqueueSpecial d sw.queue)
    (step env phase sw d).record = filled.1 ∧ (step env phase sw d).queue = filled.2.1 := by
  have hrec := Source.primary_record (hd.mono d.mem_functions_of_source) phase sw.record sw.state
  rw [step_of_not_self hs]
  simp only [hrec]
  exact ⟨rfl, rfl⟩

theorem step_record (hd : env.Spares d.functions) (hs : ∀ target, d.source ≠ .self target) :
    (step env phase sw d).record = (applyDefaults phase d (written env phase sw d) (enqueueSpecial d sw.queue)).1 :=
  (step_filled hd hs).1

theorem step_queue (hd : env.Spares d.functions) (hs : ∀ target, d.source ≠ .self target) :
    (step env phase sw d).queue = (applyDefaults phase d (written env phase sw d) (enqueueSpecial d sw.queue)).2.1 :=
  (step_filled hd hs).2

theorem step_aliases_of_not_self (hs : ∀ target, d.source ≠ .self target) :
    (step env phase sw d).aliases = sw.aliases := by
  rw [step_of_not_self hs]

theorem written_clean (hc : sw.record.Clean) (d : Descriptor) : (written env phase sw d).Clean :=
  write_clean hc _ _

/-- What a field holds after its turn: its source's value, or its default if it is mandatory. -/
theorem step_get? (hd : env.Spares d.functions) (hc : sw.record.Clean) (hs : ∀ target, d.source ≠ .self target) :
    (step env phase sw d).record.get? d.name =
      (Primary.onto (turn env phase sw d) (sw.record.get? d.name)).or d.defaulted := by
  rw [step_record hd hs, applyDefaults_get? (written_clean hc d), if_pos rfl, written, write_get?, if_pos rfl]

theorem step_get?_of_ne (hd : env.Spares d.functions) {name : String} (h : name ≠ d.name) :
    (step env phase sw d).record.get? name = sw.record.get? name := by
  by_cases hs : ∃ target, d.source = .self target
  · obtain ⟨target, hs⟩ := hs
    rw [step_of_self hs]
  · rw [step_record hd fun t ht => hs ⟨t, ht⟩, applyDefaults_get?_of_ne h, written, write_get?, if_neg h]

/-! ## The queue and the references -/

theorem enqueueSpecial_of_special {f : FieldFunction} (hs : d.source = .special) (hf : d.fallback = some f)
    (queue : FallbackQueue) : enqueueSpecial d queue = queue.insert d.name (some f) := by
  simp [enqueueSpecial, hs, hf]

theorem enqueueSpecial_of_not (h : d.source ≠ .special ∨ d.fallback = none) (queue : FallbackQueue) :
    enqueueSpecial d queue = queue := by
  unfold enqueueSpecial
  split
  · next hs hf =>
    rcases h with h | h
    · exact absurd hs h
    · rw [h] at hf; cases hf
  · rfl

theorem step_queue_of_waits (hd : env.Spares d.functions) (hc : sw.record.Clean)
    (hs : ∀ target, d.source ≠ .self target)
    (h : d.Waits (Primary.onto (turn env phase sw d) (sw.record.get? d.name))) :
    (step env phase sw d).queue = (enqueueSpecial d sw.queue).insert d.name d.fallback := by
  rw [step_queue hd hs]
  exact applyDefaults_queue_of_waits (written_clean hc d) (by rwa [written, write_get?, if_pos rfl])

theorem step_queue_of_not_waits (hd : env.Spares d.functions) (hc : sw.record.Clean)
    (hs : ∀ target, d.source ≠ .self target)
    (h : ¬d.Waits (Primary.onto (turn env phase sw d) (sw.record.get? d.name))) :
    (step env phase sw d).queue = enqueueSpecial d sw.queue := by
  rw [step_queue hd hs]
  exact applyDefaults_queue_of_not_waits (written_clean hc d) (by rwa [written, write_get?, if_pos rfl])

theorem enqueueSpecial_cases (d : Descriptor) (queue : FallbackQueue) :
    enqueueSpecial d queue = queue ∨ enqueueSpecial d queue = queue.insert d.name d.fallback := by
  unfold enqueueSpecial
  split
  · next hf => exact .inr (by rw [hf])
  · exact .inl rfl

/-- What a step makes of the queue: the field may come to wait, no other one does. -/
theorem step_queue_cases (env : Surface σ) (phase : Phase) (sw : Sweep σ) (d : Descriptor) :
    (step env phase sw d).queue = sw.queue ∨ (step env phase sw d).queue = sw.queue.insert d.name d.fallback := by
  by_cases hs : ∃ target, d.source = .self target
  · obtain ⟨target, hs⟩ := hs
    exact .inl (by rw [step_of_self hs])
  rw [step_of_not_self fun t ht => hs ⟨t, ht⟩]
  dsimp only
  rcases applyDefaults_queue_cases phase d _ (enqueueSpecial d sw.queue) with hq | hq <;> rw [hq]
  · exact enqueueSpecial_cases d sw.queue
  · rcases enqueueSpecial_cases d sw.queue with hq' | hq' <;> rw [hq']
    · exact .inr rfl
    · exact .inr (OrderedMap.insert_insert _ _ _ _)

theorem step_queue_get?_of_ne {name : String} (h : name ≠ d.name) :
    (step env phase sw d).queue.get? name = sw.queue.get? name := by
  rcases step_queue_cases env phase sw d with hq | hq
  · rw [hq]
  · rw [hq, OrderedMap.get?_insert_of_ne _ _ h]

theorem step_aliases_get?_of_ne {name : String} (h : name ≠ d.name) :
    (step env phase sw d).aliases.get? name = sw.aliases.get? name := by
  by_cases hs : ∃ target, d.source = .self target
  · obtain ⟨target, hs⟩ := hs
    rw [step_of_self hs, OrderedMap.get?_insert_of_ne _ _ h]
  · rw [step_aliases_of_not_self fun t ht => hs ⟨t, ht⟩]

/-! ## The invariant of a sweep -/

/-- What holds throughout a sweep over `ds`: one entry for each name in the queue and among the references, and only
functions of the fields in the queue. -/
structure Ordered (ds : List Descriptor) (sw : Sweep σ) : Prop where
  queue : sw.queue.WellFormed
  aliases : sw.aliases.WellFormed
  ours : ∀ name f, (name, some f) ∈ sw.queue.entries → f ∈ functionsOf ds

/-- What holds throughout a sweep over `ds` that began without absent values: there are none in the record. -/
structure Sound (ds : List Descriptor) (sw : Sweep σ) : Prop extends Ordered ds sw where
  clean : sw.record.Clean

variable {ds : List Descriptor}

theorem ordered_start (ds : List Descriptor) (record : Record) (s : σ) : Ordered ds { record, state := s } :=
  ⟨OrderedMap.wellFormed_empty, OrderedMap.wellFormed_empty, fun _ _ h => by cases h⟩

theorem step_ordered (env : Surface σ) (phase : Phase) (hd : d ∈ ds) (h : Ordered ds sw) :
    Ordered ds (step env phase sw d) := by
  refine ⟨?_, ?_, ?_⟩
  · rcases step_queue_cases env phase sw d with hq | hq <;> rw [hq]
    · exact h.queue
    · exact OrderedMap.nodup_keys_insert h.queue _ _
  · by_cases hs : ∃ target, d.source = .self target
    · obtain ⟨target, hs⟩ := hs
      rw [step_of_self hs]
      exact OrderedMap.nodup_keys_insert h.aliases _ _
    · rw [step_aliases_of_not_self fun t ht => hs ⟨t, ht⟩]
      exact h.aliases
  · intro name f hf
    rcases step_queue_cases env phase sw d with hq | hq <;> rw [hq] at hf
    · exact h.ours name f hf
    · rcases OrderedMap.mem_entries_insert hf with he | he
      · rw [Prod.mk.injEq] at he
        exact mem_functionsOf hd (d.mem_functions_of_fallback he.2.symm)
      · exact h.ours name f he

/-- **The order of the queue and of the references holds along the sweep**, at each turn of a field. -/
theorem run_ordered (env : Surface σ) (phase : Phase) {before : List Descriptor} (hb : ∀ d ∈ before, d ∈ ds)
    (record : Record) (s : σ) : Ordered ds (run env phase before record s) := by
  have hfold : ∀ (rest : List Descriptor) (sw : Sweep σ), (∀ d ∈ rest, d ∈ ds) → Ordered ds sw →
      Ordered ds (rest.foldl (step env phase) sw) := by
    intro rest
    induction rest with
    | nil => exact fun _ _ h => h
    | cons d rest ih =>
      intro sw hr h
      exact ih _ (fun x hx => hr x (List.mem_cons_of_mem _ hx))
        (step_ordered env phase (hr d List.mem_cons_self) h)
  exact hfold before _ hb (ordered_start ds record s)

theorem step_clean (hd : env.Spares d.functions) (hc : sw.record.Clean) : (step env phase sw d).record.Clean := by
  by_cases hs : ∃ target, d.source = .self target
  · obtain ⟨target, hs⟩ := hs
    rw [step_of_self hs]
    exact hc
  · rw [step_record hd fun t ht => hs ⟨t, ht⟩]
    exact applyDefaults_clean (written_clean hc d)

/-- **No absent values come to the record along the sweep.** -/
theorem run_sound (phase : Phase) {before : List Descriptor} (hb : ∀ d ∈ before, d ∈ ds)
    (hsp : env.Spares (functionsOf ds)) (hr : record.Clean) (s : σ) : Sound ds (run env phase before record s) := by
  have hfold : ∀ (rest : List Descriptor) (sw : Sweep σ), (∀ d ∈ rest, d ∈ ds) → sw.record.Clean →
      (rest.foldl (step env phase) sw).record.Clean := by
    intro rest
    induction rest with
    | nil => exact fun _ _ h => h
    | cons d rest ih =>
      intro sw hr h
      have hd := hsp.mono fun f hf => mem_functionsOf (hr d List.mem_cons_self) hf
      exact ih _ (fun x hx => hr x (List.mem_cons_of_mem _ hx)) (step_clean hd h)
  exact ⟨run_ordered env phase hb record s, hfold before _ hb hr⟩

theorem run_append (before after : List Descriptor) (s : σ) :
    run env phase (before ++ after) record s = after.foldl (step env phase) (run env phase before record s) :=
  List.foldl_append

/-! ## The state -/

variable {I : σ → Prop} {given : FieldFunction → Record → Except Failure Value}

theorem step_state (h : env.Answers I given d.functions) (hs : I sw.state) : I (step env phase sw d).state := by
  rcases d.reference_or with ⟨target, hself⟩ | hself
  · rw [step_of_self hself]
    exact hs
  · have hp : I (d.source.primary env phase sw.record sw.state).2.2 :=
      Source.primary_state (h.mono d.mem_functions_of_source) phase sw.record hs
    rw [step_of_not_self hself]
    exact h.heard _ hp

theorem run_state (h : env.Answers I given (functionsOf ds)) {s : σ} (hs : I s) :
    I (run env phase ds record s).state := by
  have hfold : ∀ (rest : List Descriptor) (sw : Sweep σ), (∀ d ∈ rest, d ∈ ds) → I sw.state →
      I (rest.foldl (step env phase) sw).state := by
    intro rest
    induction rest with
    | nil => exact fun _ _ hs => hs
    | cons d rest ih =>
      intro sw hr hs
      have hd := h.mono fun f hf => mem_functionsOf (hr d List.mem_cons_self) hf
      exact ih _ (fun x hx => hr x (List.mem_cons_of_mem _ hx)) (step_state hd hs)
  exact hfold ds _ (fun _ hd => hd) hs

/-! ## One field among others -/

/-- Two sweeps that agree on one name: in the record, in the queue and among the references. -/
structure SameAt (name : String) (sw sw' : Sweep σ) : Prop where
  record : sw'.record.get? name = sw.record.get? name
  queue : sw'.queue.get? name = sw.queue.get? name
  aliases : sw'.aliases.get? name = sw.aliases.get? name

/-- **Fields of other names leave a name alone.** -/
theorem foldl_sameAt (phase : Phase) {rest : List Descriptor} {name : String} (hn : ∀ d ∈ rest, name ≠ d.name)
    (hsp : env.Spares (functionsOf rest)) (sw : Sweep σ) : SameAt name sw (rest.foldl (step env phase) sw) := by
  induction rest generalizing sw with
  | nil => exact ⟨rfl, rfl, rfl⟩
  | cons d rest ih =>
    have hne := hn d List.mem_cons_self
    have hspd := hsp.mono fun f hf => mem_functionsOf List.mem_cons_self hf
    have hrest := ih (fun x hx => hn x (List.mem_cons_of_mem _ hx))
      (hsp.mono (functionsOf_mono fun _ => List.mem_cons_of_mem _)) (step env phase sw d)
    exact ⟨hrest.record.trans (step_get?_of_ne hspd hne), hrest.queue.trans (step_queue_get?_of_ne hne),
      hrest.aliases.trans (step_aliases_get?_of_ne hne)⟩

end Sweep

end ActivityLog
