import ActivityLog.Proofs.Pass.Sweep

/-!
# The same pass in two states

Two surfaces may read and call in states of different kinds. As long as a relation between the states makes them give
the same (`Surface.Simulates`), a pass gives the same record, and leaves related states behind
(`Surface.Simulates.resolvePass`). A surface simulates itself in states that keep an invariant, which is how a pass is
seen to keep it (`Surface.Keeps.resolvePass`).
-/

namespace ActivityLog

open OrderedMap

variable {σ τ : Type} {env : Surface σ} {env' : Surface τ} {S : σ → τ → Prop} {phase : Phase} {d : Descriptor}
  {fs : List FieldFunction} {record : Record} {s : σ} {t : τ}

/-- In related states two surfaces give the same in a phase, and lead to related states. -/
structure Surface.Simulates (env : Surface σ) (env' : Surface τ) (S : σ → τ → Prop) (phase : Phase)
    (fs : List FieldFunction) : Prop where
  header : ∀ name s t, S s t →
    (env.header phase name s).1 = (env'.header phase name t).1 ∧
      S (env.header phase name s).2 (env'.header phase name t).2
  field : ∀ name s t, S s t →
    (env.field phase name s).1 = (env'.field phase name t).1 ∧
      S (env.field phase name s).2 (env'.field phase name t).2
  call : ∀ f ∈ fs, ∀ record s t, S s t →
    (env.call f record s).1 = (env'.call f record t).1 ∧ (env.call f record s).2.1 = (env'.call f record t).2.1 ∧
      S (env.call f record s).2.2 (env'.call f record t).2.2
  heard : ∀ s t, S s t → S (env.heard s).2 (env'.heard t).2

theorem Surface.Simulates.mono {gs : List FieldFunction} (h : env.Simulates env' S phase fs)
    (hg : ∀ f ∈ gs, f ∈ fs) : env.Simulates env' S phase gs := { h with call := fun f hf => h.call f (hg f hf) }

theorem Source.primary_simulates {src : Source} (h : env.Simulates env' S phase src.functions) (record : Record)
    (hs : S s t) :
    (src.primary env phase record s).1 = (src.primary env' phase record t).1 ∧
      (src.primary env phase record s).2.1 = (src.primary env' phase record t).2.1 ∧
      S (src.primary env phase record s).2.2 (src.primary env' phase record t).2.2 := by
  have hcall (f : FieldFunction) (hf : f ∈ src.functions) :
      ((env.call f record s).1.map Primary.value) = ((env'.call f record t).1.map Primary.value) ∧
        (env.call f record s).2.1 = (env'.call f record t).2.1 ∧
        S (env.call f record s).2.2 (env'.call f record t).2.2 :=
    have hc := h.call f hf record s t hs
    ⟨by rw [hc.1], hc.2⟩
  cases src with
  | header name =>
    obtain ⟨hvalue, hafter⟩ := h.header name s t hs
    exact ⟨congrArg (·.map Primary.value) hvalue, rfl, hafter⟩
  | field name =>
    obtain ⟨hvalue, hafter⟩ := h.field name s t hs
    exact ⟨congrArg (·.map Primary.value) hvalue, rfl, hafter⟩
  | time pre post =>
    rcases pre with _ | _ <;> rcases post with _ | _ <;> cases phase <;> first
      | exact ⟨rfl, rfl, hs⟩
      | exact hcall _ (by simp [Source.functions])
  | fixed => cases phase <;> exact ⟨rfl, rfl, hs⟩
  | self => exact ⟨rfl, rfl, hs⟩
  | special => exact ⟨rfl, rfl, hs⟩

/-! ## The sweep -/

/-- Two sweeps that have come to the same, in related states, with functions of `fs` waiting. -/
structure Sweep.Alike (S : σ → τ → Prop) (fs : List FieldFunction) (sw : Sweep σ) (sw' : Sweep τ) : Prop where
  record : sw.record = sw'.record
  queue : sw.queue = sw'.queue
  aliases : sw.aliases = sw'.aliases
  state : S sw.state sw'.state
  ours : ∀ name f, (name, some f) ∈ sw.queue.entries → f ∈ fs

theorem Sweep.Alike.step {sw : Sweep σ} {sw' : Sweep τ} (h : Alike S fs sw sw') (henv : env.Simulates env' S phase fs)
    (hd : ∀ f ∈ d.functions, f ∈ fs) : Alike S fs (step env phase sw d) (step env' phase sw' d) := by
  obtain ⟨hrecord, hqueue, haliases, hstate, hours⟩ := h
  rcases d.reference_or with ⟨target, hself⟩ | hself
  · rw [step_of_self hself, step_of_self hself]
    exact ⟨hrecord, hqueue, by rw [haliases], hstate, hours⟩
  · obtain ⟨hvalue, hleft, hafter⟩ := Source.primary_simulates
      (henv.mono fun f hf => hd f (d.mem_functions_of_source f hf)) sw.record hstate
    rw [step_of_not_self hself, step_of_not_self hself]
    refine ⟨?_, ?_, haliases, henv.heard _ _ (hrecord ▸ hafter), ?_⟩
    · simp only [hrecord, hqueue] at hvalue hleft ⊢
      rw [hvalue, hleft]
    · simp only [hrecord, hqueue] at hvalue hleft ⊢
      rw [hvalue, hleft]
    · intro name f hf
      rw [← step_of_not_self hself] at hf
      rcases step_queue_cases env phase sw d with hq | hq <;> rw [hq] at hf
      · exact hours name f hf
      · rcases mem_entries_insert hf with he | he
        · rw [Prod.mk.injEq] at he
          exact hd f (d.mem_functions_of_fallback he.2.symm)
        · exact hours name f he

theorem Sweep.Alike.foldl {sw : Sweep σ} {sw' : Sweep τ} (h : Alike S fs sw sw') (henv : env.Simulates env' S phase fs)
    {ds : List Descriptor} (hds : ∀ f ∈ functionsOf ds, f ∈ fs) :
    Alike S fs (ds.foldl (Sweep.step env phase) sw) (ds.foldl (Sweep.step env' phase) sw') := by
  induction ds generalizing sw sw' with
  | nil => exact h
  | cons d ds ih =>
    refine ih (h.step henv fun f hf => hds f (mem_functionsOf List.mem_cons_self hf)) fun f hf => hds f ?_
    exact functionsOf_mono (fun _ => List.mem_cons_of_mem _) f hf

/-! ## The batch -/

/-- Two batches that have come to the same, in related states. -/
structure Batch.Alike (S : σ → τ → Prop) (b : Batch σ) (b' : Batch τ) : Prop where
  record : b.record = b'.record
  results : b.results = b'.results
  state : S b.state b'.state

theorem Batch.Alike.step {b : Batch σ} {b' : Batch τ} (h : Alike S b b') (henv : env.Simulates env' S phase fs)
    (e : String × Option FieldFunction) (he : ∀ f, e.2 = some f → f ∈ fs) :
    Alike S (step env phase b e) (step env' phase b' e) := by
  obtain ⟨name, f?⟩ := e
  cases f? with
  | none => exact ⟨h.record, h.results, h.state⟩
  | some f =>
    obtain ⟨hvalue, hleft, hafter⟩ := henv.call f (he f rfl) b.record b.state b'.state h.state
    have hheard := henv.heard _ _ hafter
    have hrecord := h.record
    have hresults := h.results
    rw [hrecord] at hvalue hleft hheard
    cases hv : (env'.call f b'.record b'.state).1 <;> rw [hv] at hvalue <;>
      constructor <;> simp_all [Batch.step]

theorem Batch.Alike.foldl {b : Batch σ} {b' : Batch τ} (h : Alike S b b') (henv : env.Simulates env' S phase fs)
    {entries : List (String × Option FieldFunction)} (he : ∀ name f, (name, some f) ∈ entries → f ∈ fs) :
    Alike S (entries.foldl (Batch.step env phase) b) (entries.foldl (Batch.step env' phase) b') := by
  induction entries generalizing b b' with
  | nil => exact h
  | cons e rest ih =>
    refine ih (h.step henv e fun f hf => he e.1 f ?_) fun name f hf => he name f (List.mem_cons_of_mem _ hf)
    rw [← hf]
    exact List.mem_cons_self

/-! ## The whole pass -/

/-- **A pass gives the same record in related states**, and leaves related states behind. -/
theorem Surface.Simulates.resolvePass {ds : List Descriptor} (h : env.Simulates env' S phase (functionsOf ds))
    (record : Record) (hs : S s t) :
    (resolvePass env phase ds record s).record = (resolvePass env' phase ds record t).record ∧
      S (resolvePass env phase ds record s).state (resolvePass env' phase ds record t).state := by
  have hstart : Sweep.Alike S (functionsOf ds) { record, state := s } { record, state := t } :=
    ⟨rfl, rfl, rfl, hs, fun _ _ hf => absurd hf List.not_mem_nil⟩
  have hsweep : Sweep.Alike S (functionsOf ds) (Sweep.run env phase ds record s) (Sweep.run env' phase ds record t) :=
    hstart.foldl h fun _ hf => hf
  have hstart : Batch.Alike S
      { record := (Sweep.run env phase ds record s).record, state := (Sweep.run env phase ds record s).state }
      { record := (Sweep.run env' phase ds record t).record, state := (Sweep.run env' phase ds record t).state } :=
    ⟨hsweep.record, rfl, hsweep.state⟩
  have hbatch := Batch.Alike.foldl hstart h hsweep.ours
  have hqueue := hsweep.queue
  have haliases := hsweep.aliases
  have hrecord := hbatch.record
  have hresults := hbatch.results
  have hstate := hbatch.state
  simp only [ActivityLog.resolvePass, Batch.run]
  rw [← hqueue, ← haliases]
  exact ⟨by rw [hrecord, hresults], hstate⟩

/-- What a pass reads and calls keeps an invariant of the state. -/
structure Surface.Keeps (env : Surface σ) (I : σ → Prop) (fs : List FieldFunction) : Prop where
  header : ∀ phase name s, I s → I (env.header phase name s).2
  field : ∀ phase name s, I s → I (env.field phase name s).2
  call : ∀ f ∈ fs, ∀ record s, I s → I (env.call f record s).2.2
  heard : ∀ s, I s → I (env.heard s).2

theorem Surface.Keeps.simulates {I : σ → Prop} (h : env.Keeps I fs) (phase : Phase) :
    env.Simulates env (fun s t => s = t ∧ I s) phase fs := by
  refine ⟨?_, ?_, ?_, ?_⟩
  · rintro name s _ ⟨rfl, hs⟩
    exact ⟨rfl, rfl, h.header phase name s hs⟩
  · rintro name s _ ⟨rfl, hs⟩
    exact ⟨rfl, rfl, h.field phase name s hs⟩
  · rintro f hf record s _ ⟨rfl, hs⟩
    exact ⟨rfl, rfl, rfl, h.call f hf record s hs⟩
  · rintro s _ ⟨rfl, hs⟩
    exact ⟨rfl, h.heard s hs⟩

/-- The invariant holds at each turn of a sweep. -/
theorem Surface.Keeps.sweep {I : σ → Prop} {before : List Descriptor} (h : env.Keeps I fs)
    (hbefore : ∀ f ∈ functionsOf before, f ∈ fs) (phase : Phase) (record : Record) (hs : I s) :
    I (Sweep.run env phase before record s).state := by
  have hstart : Sweep.Alike (fun s t => s = t ∧ I s) fs { record, state := s } { record, state := s } :=
    ⟨rfl, rfl, rfl, ⟨rfl, hs⟩, fun _ _ hf => absurd hf List.not_mem_nil⟩
  exact (hstart.foldl (h.simulates phase) hbefore).state.2

/-- The invariant holds at each turn of a batch. -/
theorem Surface.Keeps.batch {I : σ → Prop} (h : env.Keeps I fs) (phase : Phase)
    {entries : List (String × Option FieldFunction)} (he : ∀ name f, (name, some f) ∈ entries → f ∈ fs) {b : Batch σ}
    (hs : I b.state) : I (entries.foldl (Batch.step env phase) b).state := by
  have hstart : Batch.Alike (fun s t => s = t ∧ I s) b b := ⟨rfl, rfl, rfl, hs⟩
  exact (hstart.foldl (h.simulates phase) he).state.2

theorem Surface.Keeps.resolvePass {I : σ → Prop} {ds : List Descriptor} (h : env.Keeps I (functionsOf ds))
    (phase : Phase) (record : Record) (hs : I s) : I (resolvePass env phase ds record s).state :=
  ((h.simulates phase).resolvePass record ⟨rfl, hs⟩).2.2

end ActivityLog
