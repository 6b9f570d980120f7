import ActivityLog.Proofs.Pass.Failures

/-!
# What a record goes through in a pass

A pass makes its record in small steps: functions may write to it, the value of a source is written and a default filled
in, the results of the batch are stored, references are copied. `passCourse` are the records after each of these, from
the one that the pass begins with to the one that it ends with (`getLast?_passCourse`).

Functions that leave no absent value in a record without one (`Surface.Tidy`) may return absent values, fail, write
other values and take fields out. No record on the way holds an absent value then (`Surface.Tidy.passCourse`).
-/

namespace ActivityLog

open OrderedMap

variable {σ : Type} {env : Surface σ} {I : σ → Prop} {phase : Phase} {record : Record} {s : σ} {ds : List Descriptor}
  {fs gs : List FieldFunction}

/-! ## Invariants of runs -/

section Runs

variable {α β : Type} {P : β → Prop} {step : β → α → β} {items : List α} {b : β}

/-- What each step keeps holds at every turn. -/
theorem forall_mem_turns (hb : P b) (hstep : ∀ b, P b → ∀ a ∈ items, P (step b a)) :
    ∀ t ∈ turns step b items, P t.1 ∧ t.2 ∈ items := by
  induction items generalizing b with
  | nil => exact fun _ ht => absurd ht List.not_mem_nil
  | cons a rest ih =>
    intro t ht
    rcases List.mem_cons.1 ht with rfl | ht
    · exact ⟨hb, List.mem_cons_self⟩
    · have hrest (b : β) (hb : P b) (a : α) (ha : a ∈ rest) : P (step b a) := hstep b hb a (List.mem_cons_of_mem _ ha)
      exact (ih (hstep b hb _ List.mem_cons_self) hrest t ht).imp_right (List.mem_cons_of_mem _)

/-- What each step keeps holds before and after all of them. -/
theorem forall_mem_scanl (hb : P b) (hstep : ∀ b, P b → ∀ a ∈ items, P (step b a)) :
    ∀ x ∈ items.scanl step b, P x := by
  induction items generalizing b with
  | nil => simpa using hb
  | cons a rest ih =>
    rw [List.scanl_cons, List.forall_mem_cons]
    exact ⟨hb, ih (hstep b hb a List.mem_cons_self) fun b hb a ha => hstep b hb a (List.mem_cons_of_mem _ ha)⟩

end Runs

/-! ## The steps of a pass -/

namespace Sweep

/-- The records that the turn of a field goes through: what its source leaves, what is written, and what is filled in.
The turn of a reference leaves the record alone. -/
def stages (env : Surface σ) (phase : Phase) (sw : Sweep σ) (d : Descriptor) : List Record :=
  match d.source with
  | .self _ => []
  | source =>
    let asked := source.primary env phase sw.record sw.state
    let given := (write phase d.name asked.1 asked.2.1).1
    [asked.2.1, given, (applyDefaults phase d given (enqueueSpecial d sw.queue)).1]

/-- The records that a sweep goes through. -/
def course (env : Surface σ) (phase : Phase) (ds : List Descriptor) (record : Record) (s : σ) : List Record :=
  record :: (turns (step env phase) { record, state := s } ds).flatMap fun t => stages env phase t.1 t.2

theorem stages_of_not_self {sw : Sweep σ} {d : Descriptor} (hs : ∀ target, d.source ≠ .self target) :
    stages env phase sw d =
      let asked := d.source.primary env phase sw.record sw.state
      let given := (write phase d.name asked.1 asked.2.1).1
      [asked.2.1, given, (applyDefaults phase d given (enqueueSpecial d sw.queue)).1] := by
  unfold stages
  split
  · next h => exact absurd h (hs _)
  · rfl

theorem stages_of_self {sw : Sweep σ} {d : Descriptor} {target : String} (h : d.source = .self target) :
    stages env phase sw d = [] := by
  unfold stages
  rw [h]

/-- A turn ends with the record that it leaves behind. -/
theorem getLastD_stages (sw : Sweep σ) (d : Descriptor) :
    (stages env phase sw d).getLastD sw.record = (step env phase sw d).record := by
  rcases d.reference_or with ⟨target, hself⟩ | hself
  · rw [stages_of_self hself, step_of_self hself]
    rfl
  · rw [stages_of_not_self hself, step_of_not_self hself]
    rfl

/-- A sweep ends with the record that it leaves behind. -/
theorem getLast?_course (env : Surface σ) (phase : Phase) (ds : List Descriptor) (record : Record) (s : σ) :
    (course env phase ds record s).getLast? = some (run env phase ds record s).record := by
  have hfold : ∀ sw : Sweep σ,
      ((turns (step env phase) sw ds).flatMap fun t => stages env phase t.1 t.2).getLastD sw.record =
        (ds.foldl (step env phase) sw).record := by
    induction ds with
    | nil => exact fun _ => rfl
    | cons d ds ih =>
      intro sw
      rw [List.foldl_cons, ← ih, ← getLastD_stages, turns, List.flatMap_cons]
      simp only [List.getLastD_eq_getLast?, List.getLast?_append, Option.getD_or]
  rw [course, List.getLast?_cons, ← List.getLastD_eq_getLast?, hfold]
  rfl

end Sweep

/-- The records that a batch goes through. -/
def Batch.course (env : Surface σ) (phase : Phase) (queue : FallbackQueue) (record : Record) (s : σ) : List Record :=
  (queue.entries.scanl (step env phase) { record, state := s }).map (·.record)

/-- A batch ends with the record that it leaves behind. -/
theorem Batch.getLast?_course (env : Surface σ) (phase : Phase) (queue : FallbackQueue) (record : Record) (s : σ) :
    (course env phase queue record s).getLast? = some (run env phase queue record s).record := by
  rw [course, List.getLast?_map, List.getLast?_scanl]
  rfl

/-- The records that a pass goes through: those of the sweep and of the batch, and then those as results are stored and
references are copied, one after the other. -/
def passCourse (env : Surface σ) (phase : Phase) (ds : List Descriptor) (record : Record) (s : σ) : List Record :=
  let sw := Sweep.run env phase ds record s
  let b := Batch.run env phase sw.queue sw.record sw.state
  Sweep.course env phase ds record s ++ Batch.course env phase sw.queue sw.record sw.state ++
    b.results.scanl (fun r e => r.store e.1 e.2) b.record ++
    sw.aliases.entries.scanl (fun r e => r.store e.1 (r.value e.2)) (storeAll b.record b.results)

/-- **A pass ends with the record that it leaves behind.** -/
theorem getLast?_passCourse (env : Surface σ) (phase : Phase) (ds : List Descriptor) (record : Record) (s : σ) :
    (passCourse env phase ds record s).getLast? = some (resolvePass env phase ds record s).record := by
  rw [passCourse, List.getLast?_append, List.getLast?_scanl]
  rfl

/-! ## No absent value on the way -/

/-- Functions of `fs` leave no absent value in a record without one, in states of `I`; looking, calling and hearing lead
from `I` to `I`. -/
structure Surface.Tidy (env : Surface σ) (I : σ → Prop) (fs : List FieldFunction) : Prop where
  header : ∀ phase name s, I s → I (env.header phase name s).2
  field : ∀ phase name s, I s → I (env.field phase name s).2
  heard : ∀ s, I s → I (env.heard s).2
  call : ∀ f ∈ fs, ∀ record s, record.Clean → I s → (env.call f record s).2.1.Clean ∧ I (env.call f record s).2.2

namespace Surface.Tidy

theorem mono (h : env.Tidy I fs) (hg : ∀ f ∈ gs, f ∈ fs) : env.Tidy I gs :=
  { h with call := fun f hf => h.call f (hg f hf) }

theorem primary {src : Source} (h : env.Tidy I src.functions) (phase : Phase) (hrecord : record.Clean) (hs : I s) :
    (src.primary env phase record s).2.1.Clean ∧ I (src.primary env phase record s).2.2 := by
  rcases src with _ | _ | _ | _ | ⟨_ | _, _ | _⟩ | _ <;> cases phase <;> first
    | exact ⟨hrecord, hs⟩
    | exact ⟨hrecord, h.header _ _ _ hs⟩
    | exact ⟨hrecord, h.field _ _ _ hs⟩
    | exact h.call _ (by simp [Source.functions]) _ _ hrecord hs

/-- No record in the turn of a field holds an absent value. -/
theorem stages {sw : Sweep σ} {d : Descriptor} (h : env.Tidy I d.source.functions) (phase : Phase)
    (hclean : sw.record.Clean) (hs : I sw.state) : ∀ r ∈ Sweep.stages env phase sw d, r.Clean := by
  rcases d.reference_or with ⟨target, hself⟩ | hself
  · rw [Sweep.stages_of_self hself]
    exact fun _ hr => absurd hr List.not_mem_nil
  · obtain ⟨hasked, -⟩ := h.primary phase hclean hs
    rw [Sweep.stages_of_not_self hself]
    simp only [List.forall_mem_cons]
    refine ⟨hasked, Sweep.write_clean hasked _ _, ?_, fun _ hr => absurd hr List.not_mem_nil⟩
    exact applyDefaults_clean (Sweep.write_clean hasked _ _)

/-- The turn of a field leaves no absent value. -/
theorem step {sw : Sweep σ} {d : Descriptor} (h : env.Tidy I d.source.functions) (phase : Phase)
    (hsw : sw.record.Clean ∧ I sw.state) :
    (Sweep.step env phase sw d).record.Clean ∧ I (Sweep.step env phase sw d).state := by
  obtain ⟨hclean, hs⟩ := hsw
  rcases d.reference_or with ⟨target, hself⟩ | hself
  · rw [Sweep.step_of_self hself]
    exact ⟨hclean, hs⟩
  · obtain ⟨hasked, hafter⟩ := h.primary phase hclean hs
    rw [Sweep.step_of_not_self hself]
    exact ⟨applyDefaults_clean (Sweep.write_clean hasked _ _), h.heard _ hafter⟩

/-- No record of a sweep holds an absent value. -/
theorem sweep (h : env.Tidy I (functionsOf ds)) (phase : Phase) (hrecord : record.Clean) (hs : I s) :
    (∀ r ∈ Sweep.course env phase ds record s, r.Clean) ∧
      (Sweep.run env phase ds record s).record.Clean ∧ I (Sweep.run env phase ds record s).state := by
  have hours {d : Descriptor} (hd : d ∈ ds) : env.Tidy I d.source.functions :=
    h.mono fun f hf => mem_functionsOf hd (d.mem_functions_of_source f hf)
  let P : Sweep σ → Prop := fun sw => sw.record.Clean ∧ I sw.state
  have hstart : P { record, state := s } := ⟨hrecord, hs⟩
  have hstep (sw : Sweep σ) (hsw : P sw) (d : Descriptor) (hd : d ∈ ds) : P (Sweep.step env phase sw d) :=
    (hours hd).step phase hsw
  refine ⟨List.forall_mem_cons.2 ⟨hrecord, fun r hr => ?_⟩, List.foldlRecOn ds _ hstart hstep⟩
  obtain ⟨⟨sw, d⟩, ht, hr⟩ := List.mem_flatMap.1 hr
  obtain ⟨⟨hclean, hstate⟩, hd⟩ := forall_mem_turns hstart hstep _ ht
  exact (hours hd).stages phase hclean hstate r hr

/-- No record of a batch holds an absent value. -/
theorem batch (h : env.Tidy I fs) (phase : Phase) {queue : FallbackQueue}
    (hours : ∀ name f, (name, some f) ∈ queue.entries → f ∈ fs) (hrecord : record.Clean) (hs : I s) :
    (∀ r ∈ Batch.course env phase queue record s, r.Clean) ∧
      (Batch.run env phase queue record s).record.Clean ∧ I (Batch.run env phase queue record s).state := by
  let P : Batch σ → Prop := fun b => b.record.Clean ∧ I b.state
  have hstart : P { record, state := s } := ⟨hrecord, hs⟩
  have hstep (b : Batch σ) (hb : P b) (e : String × Option FieldFunction) (he : e ∈ queue.entries) :
      P (Batch.step env phase b e) := by
    obtain ⟨name, _ | f⟩ := e
    · exact hb
    · obtain ⟨hclean, hafter⟩ := h.call f (hours name f he) _ _ hb.1 hb.2
      cases hr : (env.call f b.record b.state).1 <;>
        · simp only [P, Batch.step, hr]
          exact ⟨hclean, h.heard _ hafter⟩
  refine ⟨fun r hr => ?_, List.foldlRecOn queue.entries _ hstart hstep⟩
  obtain ⟨b, hb, rfl⟩ := List.mem_map.1 hr
  exact (forall_mem_scanl hstart hstep b hb).1

/-- **No record that a pass goes through holds an absent value**, if the one that it begins with holds none. -/
theorem passCourse (h : env.Tidy I (functionsOf ds)) (phase : Phase) (hrecord : record.Clean) (hs : I s) :
    (∀ r ∈ passCourse env phase ds record s, r.Clean) ∧
      (resolvePass env phase ds record s).record.Clean ∧ I (resolvePass env phase ds record s).state := by
  obtain ⟨hswept, hclean, hstate⟩ := h.sweep phase hrecord hs
  have hordered : Sweep.Ordered ds (Sweep.run env phase ds record s) :=
    Sweep.run_ordered env phase (fun _ hd => hd) record s
  obtain ⟨hbatched, hclean', hstate'⟩ := h.batch phase hordered.ours hclean hstate
  have hstored := hclean'.storeAll (Batch.run env phase (Sweep.run env phase ds record s).queue
    (Sweep.run env phase ds record s).record (Sweep.run env phase ds record s).state).results
  refine ⟨?_, hstored.copyAliases _, hstate'⟩
  intro r hr
  simp only [ActivityLog.passCourse, List.mem_append] at hr
  rcases hr with ((hr | hr) | hr) | hr
  · exact hswept r hr
  · exact hbatched r hr
  · exact forall_mem_scanl hclean' (fun r hr e _ => hr.store e.1 e.2) r hr
  · exact forall_mem_scanl hstored (fun r hr e _ => hr.store e.1 _) r hr

end Surface.Tidy

end ActivityLog
