import ActivityLog.Proofs.Pass.Siblings

/-!
# Failures stay in their own field

What failing sources and failing fallbacks make of a pass, names standing more than once allowed:
`resolvePass_failures`.

- A source that fails counts as one that gives an absent value (`Surface.excused`, `Sweep.run_excused`).
- A fallback that fails counts as one that was never put off. The others are called as before; the pass without it is
  one that finds each of them in the state in which it was called (`Surface.revisiting`, `Batch.foldl_revisiting`), or
  the pass from the same state on, if failures leave no trace there that calls depend on (`Batch.foldl_unfailing`).
- What a pass has to say by itself is told from what its functions say meanwhile (`Surface.overheard`): it has one
  remark on each failure (`Sweep.Overhears.foldl`, `Batch.Overhears.foldl`).
-/

namespace ActivityLog

open OrderedMap

variable {σ : Type} {env : Surface σ} {phase : Phase} {record : Record} {s : σ} {ds : List Descriptor}
  {fs : List FieldFunction}

/-! ## Turns -/

/-- The items of a run, each with what it finds at its turn. -/
def turns {α β : Type} (step : β → α → β) : β → List α → List (β × α)
  | _, [] => []
  | b, a :: rest => (b, a) :: turns step (step b a) rest

theorem snd_turns {α β : Type} (step : β → α → β) (b : β) (items : List α) :
    (turns step b items).map Prod.snd = items := by
  induction items generalizing b with
  | nil => rfl
  | cons a rest ih => exact congrArg (a :: ·) (ih _)

/-- Two runs over the same items, step by step related, and what the second notes on its way: all that is added turn by
turn. -/
theorem foldl_related {α β γ ν : Type} (R : β → γ → Prop) (noted : γ → List ν) {step : β → α → β} {step' : γ → α → γ}
    {added : β × α → List ν}
    (hstep : ∀ b c a, R b c → R (step b a) (step' c a) ∧ noted (step' c a) = noted c ++ added (b, a))
    (items : List α) {b : β} {c : γ} (h : R b c) :
    R (items.foldl step b) (items.foldl step' c) ∧
      noted (items.foldl step' c) = noted c ++ (turns step b items).flatMap added := by
  induction items generalizing b c with
  | nil => exact ⟨h, (List.append_nil _).symm⟩
  | cons a rest ih =>
    obtain ⟨hnext, hnoted⟩ := hstep b c a h
    obtain ⟨hrest, hnoted'⟩ := ih hnext
    refine ⟨hrest, ?_⟩
    rw [List.foldl_cons, hnoted', hnoted, List.append_assoc, turns, List.flatMap_cons]

/-- The failure that a result is. -/
def failureOf? {α : Type} : Except Failure α → Option Failure
  | .ok _ => none
  | .error e => some e

/-- The failure that the turn of a field brings, with its name. -/
def Sweep.failed? (env : Surface σ) (phase : Phase) (t : Sweep σ × Descriptor) : Option (String × Failure) :=
  (failureOf? (turn env phase t.1 t.2)).map fun e => (t.2.name, e)

/-- The failures of sources over the turns of a sweep. -/
def Sweep.failures (env : Surface σ) (phase : Phase) (sw : Sweep σ) (ds : List Descriptor) : List (String × Failure) :=
  (turns (step env phase) sw ds).filterMap (failed? env phase)

namespace Batch

/-- The failure that the turn of a fallback brings, with its name. -/
def failed? (env : Surface σ) (t : Batch σ × String × Option FieldFunction) : Option (String × Failure) :=
  t.2.2.bind fun f => (failureOf? (env.call f t.1.record t.1.state).1).map fun e => (t.2.1, e)

/-- The failures of fallbacks over the turns of a batch. -/
def failures (env : Surface σ) (phase : Phase) (b : Batch σ) (queue : FallbackQueue) : List (String × Failure) :=
  (turns (step env phase) b queue.entries).filterMap (failed? env)

/-- The queue without those whose turn brings a failure. -/
def unfailing (env : Surface σ) (phase : Phase) (b : Batch σ) (queue : FallbackQueue) : FallbackQueue :=
  ⟨((turns (step env phase) b queue.entries).filter fun t => (failed? env t).isNone).map Prod.snd⟩

/-- The states in which those are called whose turn brings a result. -/
def answering (env : Surface σ) (phase : Phase) (b : Batch σ) (queue : FallbackQueue) : List σ :=
  (turns (step env phase) b queue.entries).filterMap fun t => (result? env t.1 t.2).map fun _ => t.1.state

end Batch

/-! ## Sources that fail -/

/-- A result in which something absent stands for a failure. -/
def excuse {α : Type} (absent : α) (r : Except Failure α) : Except Failure α := .ok (r.toOption.getD absent)

/-- The surface on which what fails gives an absent value instead. -/
def Surface.excused (env : Surface σ) : Surface σ where
  header phase name s := (excuse .null (env.header phase name s).1, (env.header phase name s).2)
  field phase name s := (excuse .null (env.field phase name s).1, (env.field phase name s).2)
  call f record s := (excuse .null (env.call f record s).1, (env.call f record s).2)
  heard := env.heard

theorem Source.primary_excused (src : Source) (phase : Phase) (record : Record) (s : σ) :
    src.primary env.excused phase record s =
      (excuse (.value .null) (src.primary env phase record s).1, (src.primary env phase record s).2) := by
  have hmap : ∀ r : Except Failure Value,
      (excuse .null r).map Primary.value = excuse (.value .null) (r.map .value) := by
    rintro (e | v) <;> rfl
  rcases src with _ | _ | _ | _ | ⟨_ | _, _ | _⟩ | _ <;> cases phase <;> first
    | rfl
    | exact Prod.ext (hmap _) rfl

namespace Sweep

/-- To write a failure is to write an absent value. -/
theorem write_excuse (name : String) (result : Except Failure Primary) (record : Record) :
    (write phase name (excuse (.value .null) result) record).1 = (write phase name result record).1 := by
  rcases result with e | _ | _ <;> rfl

/-- Two sweeps that have come to the same, whatever they noted. -/
structure Agrees (sw sw' : Sweep σ) : Prop where
  record : sw'.record = sw.record
  state : sw'.state = sw.state
  queue : sw'.queue = sw.queue
  aliases : sw'.aliases = sw.aliases

theorem Agrees.step_excused {sw sw' : Sweep σ} (h : Agrees sw sw') (d : Descriptor) :
    Agrees (step env phase sw d) (step env.excused phase sw' d) := by
  obtain ⟨hrecord, hstate, hqueue, haliases⟩ := h
  rcases d.reference_or with ⟨target, hself⟩ | hself
  · rw [step_of_self hself, step_of_self hself]
    exact ⟨hrecord, hstate, hqueue, by rw [haliases]⟩
  · rw [step_of_not_self hself, step_of_not_self hself]
    simp only [hrecord, hstate, hqueue, Source.primary_excused, write_excuse]
    exact ⟨rfl, rfl, rfl, haliases⟩

/-- **A source that fails counts as one that gives an absent value.** -/
theorem run_excused (env : Surface σ) (phase : Phase) (ds : List Descriptor) (record : Record) (s : σ) :
    Agrees (run env phase ds record s) (run env.excused phase ds record s) := by
  have hfold : ∀ sw sw' : Sweep σ, Agrees sw sw' →
      Agrees (ds.foldl (step env phase) sw) (ds.foldl (step env.excused phase) sw') := by
    induction ds with
    | nil => exact fun _ _ h => h
    | cons d ds ih => exact fun sw sw' h => ih _ _ (h.step_excused d)
  exact hfold _ _ ⟨rfl, rfl, rfl, rfl⟩

/-- What is made of the record after a sweep: the batch of a queue, its results, and the copies. -/
def finish {τ : Type} (sw : Sweep σ) (env : Surface τ) (phase : Phase) (queue : FallbackQueue) (t : τ) : Record :=
  let b := Batch.run env phase queue sw.record t
  copyAliases (storeAll b.record b.results) sw.aliases.entries

end Sweep

theorem Sweep.finish_eq {τ : Type} {sw : Sweep τ} {queue : FallbackQueue} (hspares : env.Spares fs)
    (hours : ∀ name f, (name, some f) ∈ queue.entries → f ∈ fs) (s : σ) : sw.finish env phase queue s =
      copyAliases (storeAll sw.record (Batch.run env phase queue sw.record s).results) sw.aliases.entries := by
  rw [finish, Batch.run, Batch.foldl_record phase hours hspares]

/-- The record of a pass is what is made of the record of its sweep. -/
theorem resolvePass_eq_finish : (resolvePass env phase ds record s).record =
    let sw := Sweep.run env phase ds record s
    sw.finish env phase sw.queue sw.state := rfl

/-! ## Fallbacks that fail -/

/-- The surface of a state that passes on to the next of some states, if there is one left, whenever functions have been
heard, whatever they made of it. -/
def Surface.revisiting (env : Surface σ) : Surface (σ × List σ) where
  header phase name s := ((env.header phase name s.1).1, (env.header phase name s.1).2, s.2)
  field phase name s := ((env.field phase name s.1).1, (env.field phase name s.1).2, s.2)
  call f record s := ((env.call f record s.1).1, (env.call f record s.1).2.1, (env.call f record s.1).2.2, s.2)
  heard s := ((env.heard s.1).1, s.2.headD (env.heard s.1).2, s.2.tail)

theorem Surface.Spares.revisiting (h : env.Spares fs) : env.revisiting.Spares fs :=
  fun f hf record s => h f hf record s.1

/-- A call that fails leaves the state as it was, as far as the relation tells. -/
def Surface.Traceless (env : Surface σ) (S : σ → σ → Prop) (fs : List FieldFunction) : Prop :=
  ∀ f ∈ fs, ∀ record s t, S s t → (failureOf? (env.call f record s).1).isSome →
    S (env.heard (env.call f record s).2.2).2 t

namespace Batch

variable {b : Batch σ} {name : String} {f : FieldFunction} {rest : List (String × Option FieldFunction)}

/-- All that is left of the queue was there. -/
theorem mem_unfailing {queue : FallbackQueue} {e : String × Option FieldFunction}
    (h : e ∈ (unfailing env phase b queue).entries) : e ∈ queue.entries := by
  rw [← snd_turns (step env phase) b queue.entries]
  exact (List.filter_sublist.map _).subset h

/-- The turn of a fallback that gives a result. -/
theorem step_of_ok {v : Value} (hspares : env.Spares fs) (hf : f ∈ fs)
    (h : (env.call f b.record b.state).1 = .ok v) : step env phase b (name, some f) =
      { record := b.record
        state := (env.heard (env.call f b.record b.state).2.2).2
        results := b.results ++ [(name, v)]
        notes := b.notes ++ (env.heard (env.call f b.record b.state).2.2).1 } := by
  have hrecord := hspares f hf b.record b.state
  simp only [step, h, hrecord]

/-- The turn of a fallback that fails. -/
theorem step_of_error {e : Failure} (hspares : env.Spares fs) (hf : f ∈ fs)
    (h : (env.call f b.record b.state).1 = .error e) : step env phase b (name, some f) =
      { b with
        state := (env.heard (env.call f b.record b.state).2.2).2
        notes := b.notes ++ (env.heard (env.call f b.record b.state).2.2).1 ++ [.resolutionFailed name phase e] } := by
  have hrecord := hspares f hf b.record b.state
  simp only [step, h, hrecord]

theorem unfailing_of_ok {v : Value} (h : (env.call f b.record b.state).1 = .ok v) :
    (unfailing env phase b ⟨(name, some f) :: rest⟩).entries =
      (name, some f) :: (unfailing env phase (step env phase b (name, some f)) ⟨rest⟩).entries := by
  simp [unfailing, turns, failed?, h, failureOf?]

theorem unfailing_of_error {e : Failure} (h : (env.call f b.record b.state).1 = .error e) :
    unfailing env phase b ⟨(name, some f) :: rest⟩ =
      unfailing env phase (step env phase b (name, some f)) ⟨rest⟩ := by
  simp [unfailing, turns, failed?, h, failureOf?]

theorem answering_of_ok {v : Value} (h : (env.call f b.record b.state).1 = .ok v) :
    answering env phase b ⟨(name, some f) :: rest⟩ =
      b.state :: answering env phase (step env phase b (name, some f)) ⟨rest⟩ := by
  simp [answering, turns, result?, h, Except.toOption]

theorem answering_of_error {e : Failure} (h : (env.call f b.record b.state).1 = .error e) :
    answering env phase b ⟨(name, some f) :: rest⟩ =
      answering env phase (step env phase b (name, some f)) ⟨rest⟩ := by
  simp [answering, turns, result?, h, Except.toOption]

/-- **The batch without the fallbacks that fail gives the same results**, if it finds each of the others in the state in
which it was called. -/
theorem foldl_revisiting (phase : Phase) (hspares : env.Spares fs) {entries : List (String × Option FieldFunction)}
    (hours : ∀ name f, (name, some f) ∈ entries → f ∈ fs) {b : Batch σ} {b' : Batch (σ × List σ)}
    (hrecord : b'.record = b.record) (hresults : b'.results = b.results)
    (hstate : ∃ s, b'.state = ((answering env phase b ⟨entries⟩).headD s, (answering env phase b ⟨entries⟩).tail)) :
    ((unfailing env phase b ⟨entries⟩).entries.foldl (step env.revisiting phase) b').results =
      (entries.foldl (step env phase) b).results := by
  induction entries generalizing b b' with
  | nil => exact hresults
  | cons e rest ih =>
    have hrest : ∀ n g, (n, some g) ∈ rest → g ∈ fs := fun n g hg => hours n g (List.mem_cons_of_mem _ hg)
    obtain ⟨name, _ | f⟩ := e
    · exact ih hrest (b := step env phase b (name, none)) hrecord hresults hstate
    · have hf : f ∈ fs := hours name f List.mem_cons_self
      cases h : (env.call f b.record b.state).1 with
      | error e =>
        -- The batch without the fallback stands still.
        rw [unfailing_of_error h]
        refine ih hrest ?_ ?_ ?_
        · rw [step_of_error hspares hf h, hrecord]
        · rw [step_of_error hspares hf h, hresults]
        · rwa [answering_of_error h] at hstate
      | ok v =>
        rw [answering_of_ok h] at hstate
        obtain ⟨s, hstate⟩ := hstate
        have hcall : (env.revisiting.call f b'.record b'.state).1 = .ok v := by
          rw [hrecord, hstate]
          exact h
        rw [unfailing_of_ok h, List.foldl_cons, List.foldl_cons]
        refine ih hrest ?_ ?_ ⟨(env.heard (env.call f b.record b.state).2.2).2, ?_⟩
        · rw [step_of_ok hspares.revisiting hf hcall, step_of_ok hspares hf h, hrecord]
        · rw [step_of_ok hspares.revisiting hf hcall, step_of_ok hspares hf h, hresults]
        · rw [step_of_ok hspares.revisiting hf hcall, hstate, hrecord]
          rfl

/-- **The batch without the fallbacks that fail gives the same results** from the same state on, if a failure leaves no
trace that calls depend on. -/
theorem foldl_unfailing {S : σ → σ → Prop} (phase : Phase) (hspares : env.Spares fs)
    (hsame : env.Simulates env S phase fs) (htraceless : env.Traceless S fs)
    {entries : List (String × Option FieldFunction)} (hours : ∀ name f, (name, some f) ∈ entries → f ∈ fs)
    {b b' : Batch σ} (halike : Batch.Alike S b b') :
    Batch.Alike S (entries.foldl (step env phase) b)
      ((unfailing env phase b ⟨entries⟩).entries.foldl (step env phase) b') := by
  induction entries generalizing b b' with
  | nil => exact halike
  | cons e rest ih =>
    have hrest : ∀ n g, (n, some g) ∈ rest → g ∈ fs := fun n g hg => hours n g (List.mem_cons_of_mem _ hg)
    have hstep := halike.step hsame e fun g hg => hours e.1 g (by rw [← hg]; exact List.mem_cons_self)
    obtain ⟨name, _ | f⟩ := e
    · exact ih hrest hstep
    · have hf : f ∈ fs := hours name f List.mem_cons_self
      cases h : (env.call f b.record b.state).1 with
      | error e =>
        rw [unfailing_of_error h]
        refine ih hrest ⟨?_, ?_, ?_⟩
        · rw [step_of_error hspares hf h, halike.record]
        · rw [step_of_error hspares hf h, halike.results]
        · rw [step_of_error hspares hf h]
          exact htraceless f hf _ _ _ halike.state (by rw [h]; rfl)
      | ok v =>
        rw [unfailing_of_ok h]
        exact ih hrest hstep

end Batch

/-! ## What a pass has to say by itself -/

/-- The surface that keeps what functions have to say to itself. -/
def Surface.overheard (env : Surface σ) : Surface (σ × List Diagnostic) where
  header phase name s := ((env.header phase name s.1).1, (env.header phase name s.1).2, s.2)
  field phase name s := ((env.field phase name s.1).1, (env.field phase name s.1).2, s.2)
  call f record s := ((env.call f record s.1).1, (env.call f record s.1).2.1, (env.call f record s.1).2.2, s.2)
  heard s := ([], (env.heard s.1).2, s.2 ++ (env.heard s.1).1)

theorem Source.primary_overheard (src : Source) (phase : Phase) (record : Record) (s : σ × List Diagnostic) :
    src.primary env.overheard phase record s =
      ((src.primary env phase record s.1).1, (src.primary env phase record s.1).2.1,
        (src.primary env phase record s.1).2.2, s.2) := by
  rcases src with _ | _ | _ | _ | ⟨_ | _, _ | _⟩ | _ <;> cases phase <;> rfl

/-- The remark on a failure in a phase. -/
def failureNote (phase : Phase) (e : String × Failure) : Diagnostic := .resolutionFailed e.1 phase e.2

/-- The remark is one on a failure. -/
def Diagnostic.IsFailure (d : Diagnostic) : Prop := d.event = "field_resolution_failed"

instance : DecidablePred Diagnostic.IsFailure := fun _ => inferInstanceAs (Decidable (_ = _))

/-- What is added to a list that holds things of two kinds, when the kinds are kept apart. -/
theorem perm_append_apart {α : Type} {mixed own others : List α} (h : mixed.Perm (own ++ others))
    (more own' : List α) : (mixed ++ more ++ own').Perm (own ++ own' ++ (others ++ more)) := by
  calc
    (mixed ++ more ++ own').Perm (own ++ others ++ more ++ own') := (h.append_right _).append_right _
    _ = own ++ (others ++ more ++ own') := by simp only [List.append_assoc]
    List.Perm _ (own ++ (own' ++ (others ++ more))) := List.perm_append_comm.append_left own
    _ = own ++ own' ++ (others ++ more) := (List.append_assoc ..).symm

theorem filter_failureNote (phase : Phase) (es : List (String × Failure)) :
    (es.map (failureNote phase)).filter Diagnostic.IsFailure = es.map (failureNote phase) := by
  refine List.filter_eq_self.2 fun d hd => ?_
  obtain ⟨e, -, rfl⟩ := List.mem_map.1 hd
  rfl

namespace Sweep

/-- What is noted as a source's result is written: that it failed. -/
theorem write_notes (name : String) (result : Except Failure Primary) (record : Record) :
    (write phase name result record).2 =
      ((failureOf? result).map fun e => (name, e)).toList.map (failureNote phase) := by
  rcases result with e | _ | _ <;> rfl

/-- Filling in a field is no failure. -/
theorem applyDefaults_notes (phase : Phase) (d : Descriptor) (record : Record) (queue : FallbackQueue) :
    (applyDefaults phase d record queue).2.2.filter Diagnostic.IsFailure = [] := by
  unfold applyDefaults
  split
  · rfl
  · split <;> rfl

/-- A sweep, and the same on the surface that keeps what functions have to say to itself. -/
structure Overhears (sw : Sweep σ) (sw' : Sweep (σ × List Diagnostic)) : Prop where
  record : sw'.record = sw.record
  state : sw'.state.1 = sw.state
  queue : sw'.queue = sw.queue
  aliases : sw'.aliases = sw.aliases
  notes : sw.notes.Perm (sw'.notes ++ sw'.state.2)

theorem Overhears.step {sw : Sweep σ} {sw' : Sweep (σ × List Diagnostic)} (h : Overhears sw sw') (env : Surface σ)
    (phase : Phase) (d : Descriptor) :
    Overhears (step env phase sw d) (step env.overheard phase sw' d) ∧
      (Sweep.step env.overheard phase sw' d).notes.filter Diagnostic.IsFailure =
        sw'.notes.filter Diagnostic.IsFailure ++ (failed? env phase (sw, d)).toList.map (failureNote phase) := by
  obtain ⟨hrecord, hstate, hqueue, haliases, hnotes⟩ := h
  rcases d.reference_or with ⟨target, hself⟩ | hself
  · rw [step_of_self hself, step_of_self hself]
    refine ⟨⟨hrecord, hstate, hqueue, by rw [haliases], hnotes⟩, ?_⟩
    simp [failed?, turn, hself, Source.primary, failureOf?]
  · rw [step_of_not_self hself, step_of_not_self hself]
    simp only [Source.primary_overheard, hrecord, hstate, hqueue]
    refine ⟨⟨rfl, rfl, rfl, haliases, ?_⟩, ?_⟩
    · generalize d.source.primary env phase sw.record sw.state = asked
      generalize write phase d.name asked.1 asked.2.1 = given
      have hadded := perm_append_apart hnotes (env.heard asked.2.2).1
        (given.2 ++ (applyDefaults phase d given.1 (enqueueSpecial d sw.queue)).2.2)
      simpa only [Surface.overheard, List.append_nil, List.append_assoc] using hadded
    · simp only [write_notes, List.filter_append, filter_failureNote, applyDefaults_notes, Surface.overheard,
        List.append_nil]
      rfl

theorem Overhears.foldl {sw : Sweep σ} {sw' : Sweep (σ × List Diagnostic)} (h : Overhears sw sw') (env : Surface σ)
    (phase : Phase) (ds : List Descriptor) :
    Overhears (ds.foldl (Sweep.step env phase) sw) (ds.foldl (Sweep.step env.overheard phase) sw') ∧
      (ds.foldl (Sweep.step env.overheard phase) sw').notes.filter Diagnostic.IsFailure =
        sw'.notes.filter Diagnostic.IsFailure ++ (failures env phase sw ds).map (failureNote phase) := by
  rw [failures, List.filterMap_eq_flatMap_toList, List.map_flatMap]
  refine foldl_related Overhears (·.notes.filter Diagnostic.IsFailure) ?_ ds h
  exact fun _ _ d h => h.step env phase d

end Sweep

namespace Batch

variable {b : Batch σ}

/-- A batch, and the same on the surface that keeps what functions have to say to itself, each with what was noted
before. -/
structure Overhears (before before' : List Diagnostic) (b : Batch σ) (b' : Batch (σ × List Diagnostic)) : Prop where
  record : b'.record = b.record
  state : b'.state.1 = b.state
  results : b'.results = b.results
  notes : (before ++ b.notes).Perm (before' ++ b'.notes ++ b'.state.2)

variable {before before' : List Diagnostic} {b' : Batch (σ × List Diagnostic)}

theorem Overhears.step (h : Overhears before before' b b') (env : Surface σ) (phase : Phase)
    (e : String × Option FieldFunction) :
    Overhears before before' (step env phase b e) (step env.overheard phase b' e) ∧
      (Batch.step env.overheard phase b' e).notes.filter Diagnostic.IsFailure =
        b'.notes.filter Diagnostic.IsFailure ++ (failed? env (b, e)).toList.map (failureNote phase) := by
  obtain ⟨hrecord, hstate, hresults, hnotes⟩ := h
  obtain ⟨name, _ | f⟩ := e
  · refine ⟨⟨hrecord, hstate, hresults, ?_⟩, ?_⟩
    · simpa [Batch.step] using perm_append_apart hnotes [] [.missingMandatory name phase]
    · show (b'.notes ++ [Diagnostic.missingMandatory name phase]).filter Diagnostic.IsFailure = _
      rw [List.filter_append]
      rfl
  · cases h : (env.call f b.record b.state).1 with
    | ok v =>
      simp only [Batch.step, Surface.overheard, failed?, Option.bind_some, hrecord, hstate, hresults, h, failureOf?]
      refine ⟨⟨rfl, rfl, rfl, ?_⟩, ?_⟩
      · simpa using perm_append_apart hnotes (env.heard (env.call f b.record b.state).2.2).1 []
      · simp
    | error e =>
      simp only [Batch.step, Surface.overheard, failed?, Option.bind_some, hrecord, hstate, hresults, h, failureOf?]
      refine ⟨⟨rfl, rfl, rfl, ?_⟩, ?_⟩
      · simpa using perm_append_apart hnotes (env.heard (env.call f b.record b.state).2.2).1
          [.resolutionFailed name phase e]
      · rw [List.append_nil, List.filter_append]
        exact congrArg _ (filter_failureNote phase [(name, e)])

theorem Overhears.foldl (h : Overhears before before' b b') (env : Surface σ) (phase : Phase)
    (entries : List (String × Option FieldFunction)) :
    Overhears before before' (entries.foldl (Batch.step env phase) b)
        (entries.foldl (Batch.step env.overheard phase) b') ∧
      (entries.foldl (Batch.step env.overheard phase) b').notes.filter Diagnostic.IsFailure =
        b'.notes.filter Diagnostic.IsFailure ++ (failures env phase b ⟨entries⟩).map (failureNote phase) := by
  rw [failures, List.filterMap_eq_flatMap_toList, List.map_flatMap]
  refine foldl_related (Overhears before before') (·.notes.filter Diagnostic.IsFailure) ?_ entries h
  exact fun _ _ e h => h.step env phase e

end Batch

/-! ## The whole pass -/

/-- The calls of a pass are those of its sweep, and those that its queue asks for, with the record that the sweep
left. -/
theorem resolvePass_traced (phase : Phase) (record : Record) (s : σ) (hspares : env.Spares (functionsOf ds)) :
    let sw := Sweep.run env phase ds record s
    (resolvePass env.traced phase ds record (s, [])).state.2 =
      (Sweep.run env.traced phase ds record (s, [])).state.2 ++ sw.queue.calls sw.record := by
  let S : σ × List (FieldFunction × Record) → σ → Prop := fun s t => s.1 = t
  have hstart : Sweep.Alike S (functionsOf ds) { record, state := (s, []) } { record, state := s } :=
    ⟨rfl, rfl, rfl, rfl, fun _ _ hf => absurd hf List.not_mem_nil⟩
  have hsweep := hstart.foldl (env.traced_simulates phase (functionsOf ds)) fun _ hf => hf
  dsimp only [Sweep.run]
  rw [← hsweep.queue, ← hsweep.record]
  exact Batch.run_traced phase hsweep.ours hspares _ _

/-- What a pass has to say by itself, and what its functions say meanwhile. -/
theorem resolvePass_overheard (env : Surface σ) (phase : Phase) (ds : List Descriptor) (record : Record) (s : σ) :
    let sw := Sweep.run env phase ds record s
    let final := resolvePass env phase ds record s
    let own := resolvePass env.overheard phase ds record (s, [])
    (own.record = final.record ∧ own.state.1 = final.state ∧ final.notes.Perm (own.notes ++ own.state.2)) ∧
    own.notes.filter Diagnostic.IsFailure =
      (Sweep.failures env phase { record, state := s } ds ++
        Batch.failures env phase { record := sw.record, state := sw.state } sw.queue).map (failureNote phase) := by
  intro sw final own
  have hstart : Sweep.Overhears { record, state := s } { record, state := (s, []) } := ⟨rfl, rfl, rfl, rfl, .nil⟩
  obtain ⟨hsweep, hswept⟩ := hstart.foldl env phase ds
  let sw' := Sweep.run env.overheard phase ds record (s, [])
  have hbegin : Batch.Overhears sw.notes sw'.notes { record := sw.record, state := sw.state }
      { record := sw'.record, state := sw'.state } :=
    ⟨hsweep.record, hsweep.state, rfl, by rw [List.append_nil, List.append_nil]; exact hsweep.notes⟩
  obtain ⟨hbatch, hbatched⟩ := hbegin.foldl env phase sw.queue.entries
  let b' := Batch.run env.overheard phase sw.queue sw'.record sw'.state
  have hown : own =
      ⟨copyAliases (storeAll b'.record b'.results) sw.aliases.entries, b'.state, sw'.notes ++ b'.notes⟩ := by
    have hqueue : sw'.queue = sw.queue := hsweep.queue
    have haliases : sw'.aliases = sw.aliases := hsweep.aliases
    simp only [b', ← hqueue, ← haliases]
    rfl
  have hrecord : b'.record = (Batch.run env phase sw.queue sw.record sw.state).record := hbatch.record
  have hresults : b'.results = (Batch.run env phase sw.queue sw.record sw.state).results := hbatch.results
  rw [hown]
  refine ⟨⟨by rw [hrecord, hresults]; rfl, hbatch.state, hbatch.notes⟩, ?_⟩
  rw [List.filter_append, List.map_append]
  exact congrArg₂ (· ++ ·) hswept hbatched

/-- **Failures stay in their own field.** In a pass with functions that leave the record alone, whatever else they do,

- a source that fails counts as one that gives an absent value;
- a fallback that fails counts as one that was never put off: the record is that of the pass without it, if the others
  find the states in which they were called, or if failures leave no trace there that calls depend on;
- every field has its turn: the calls are those of the sweep in which no source fails, and then those of all fallbacks
  that wait, with the record at the end of the sweep;
- of what the pass notes apart from what its functions have to say, the remarks on failures are one on each failure, in
  order, that name the field and the phase. -/
theorem resolvePass_failures (phase : Phase) (ds : List Descriptor) (record : Record) (s : σ)
    (hspares : env.Spares (functionsOf ds)) :
    let final := resolvePass env phase ds record s
    let sw := Sweep.run env.excused phase ds record s
    let begun : Batch σ := { record := sw.record, state := sw.state }
    let kept := Batch.unfailing env phase begun sw.queue
    let states := Batch.answering env phase begun sw.queue
    let called := (resolvePass env.traced phase ds record (s, [])).state.2
    let own := resolvePass env.overheard phase ds record (s, [])
    final.record = sw.finish env phase sw.queue sw.state ∧
    (final.record = sw.finish env.revisiting phase kept (states.headD sw.state, states.tail) ∧
      ∀ S, env.Simulates env S phase (functionsOf ds) → env.Traceless S (functionsOf ds) → S s s →
        final.record = sw.finish env phase kept sw.state) ∧
    called = (Sweep.run env.excused.traced phase ds record (s, [])).state.2 ++ sw.queue.calls sw.record ∧
    (own.record = final.record ∧ own.state.1 = final.state ∧ final.notes.Perm (own.notes ++ own.state.2)) ∧
    own.notes.filter Diagnostic.IsFailure =
      (Sweep.failures env phase { record, state := s } ds ++ Batch.failures env phase begun sw.queue).map
        fun e => .resolutionFailed e.1 phase e.2 := by
  intro final sw begun kept states called own
  have hagrees : Sweep.Agrees (Sweep.run env phase ds record s) sw := Sweep.run_excused env phase ds record s
  have hordered : Sweep.Ordered ds sw := Sweep.run_ordered env.excused phase (fun _ hd => hd) record s
  have hkept : ∀ name f, (name, some f) ∈ kept.entries → f ∈ functionsOf ds :=
    fun name f hf => hordered.ours name f (Batch.mem_unfailing hf)
  have hfinal : final.record = sw.finish env phase sw.queue sw.state := by
    refine resolvePass_eq_finish.trans ?_
    rw [Sweep.finish, Sweep.finish, hagrees.record, hagrees.state, hagrees.queue, hagrees.aliases]
  refine ⟨hfinal, ⟨?_, fun S hsame htraceless hs => ?_⟩, ?_, ?_⟩
  · rw [hfinal, Sweep.finish_eq hspares hordered.ours, Sweep.finish_eq hspares.revisiting hkept]
    let begun' : Batch (σ × List σ) := { record := sw.record, state := (states.headD sw.state, states.tail) }
    have hresults : (kept.entries.foldl (Batch.step env.revisiting phase) begun').results =
        (sw.queue.entries.foldl (Batch.step env phase) begun).results :=
      Batch.foldl_revisiting phase hspares hordered.ours rfl rfl ⟨sw.state, rfl⟩
    rw [Batch.run, Batch.run, hresults]
  · rw [hfinal, Sweep.finish_eq hspares hordered.ours, Sweep.finish_eq hspares hkept]
    have hstart : Sweep.Alike S (functionsOf ds) { record, state := s } { record, state := s } :=
      ⟨rfl, rfl, rfl, hs, fun _ _ hf => absurd hf List.not_mem_nil⟩
    have hstate : S sw.state sw.state := hagrees.state ▸ (hstart.foldl hsame fun _ hf => hf).state
    have hbegun : Batch.Alike S begun begun := ⟨rfl, rfl, hstate⟩
    have hbatch := Batch.foldl_unfailing phase hspares hsame htraceless hordered.ours hbegun
    rw [Batch.run, Batch.run, hbatch.results]
  · have hcalls : Sweep.Agrees (Sweep.run env.traced phase ds record (s, []))
        (Sweep.run env.excused.traced phase ds record (s, [])) := Sweep.run_excused env.traced phase ds record (s, [])
    rw [hcalls.state, hagrees.queue, hagrees.record]
    exact resolvePass_traced phase record s hspares
  · have hown := resolvePass_overheard env phase ds record s
    dsimp only at hown
    rwa [← hagrees.record, ← hagrees.state, ← hagrees.queue] at hown

/-- Functions that leave everything in a completion as it is, and give what depends on the record. -/
def AtRest (fs : List FieldFunction) : Prop :=
  ∀ f ∈ fs, ∀ record w, completionSurface.call f record w = ((completionSurface.call f record {}).1, record, w)

theorem AtRest.spares (h : AtRest fs) : completionSurface.Spares fs := by
  intro f hf record w
  rw [h f hf]

/-- What they give is the same wherever the hosts are. -/
theorem AtRest.simulates (h : AtRest fs) :
    completionSurface.Simulates completionSurface (fun w w' => w.hosts = w'.hosts) .post fs := by
  refine ⟨?_, ?_, ?_, ?_⟩
  · intro name w w' hw
    simp only [completionSurface, Surroundings.surface, World.hostOf, hw, and_self]
  · intro name w w' hw
    simp only [completionSurface, Surroundings.surface, World.hostOf, hw, and_self]
  · intro f hf record w w' hw
    rw [h f hf record w, h f hf record w']
    exact ⟨rfl, rfl, hw⟩
  · exact fun w w' hw => hw

/-- Fields of a completion at which much fails: a header, a function for a time, and a fallback. -/
def strainedFields : List Descriptor :=
  [⟨"type", .header "content-type", true, .text "unknown", none⟩,
    ⟨"took", .time none (some (.script (.fail "ValueError" "no clock"))), false, .null, none⟩,
    ⟨"layer", .special, true, .null, some (.script (.fail "RuntimeError" "late"))⟩,
    ⟨"seen", .special, false, .null, some (.script (.recorded "layer" none))⟩,
    ⟨"copy", .self "seen", false, .null, none⟩]

/-- The failures at these fields: three remarks, a default for the header, and `layer` as the arrival left it. -/
theorem resolvePass_failures_completion :
    completionSurface.Spares (functionsOf strainedFields) ∧
    let hosts : World → World → Prop := fun w w' => w.hosts = w'.hosts
    completionSurface.Simulates completionSurface hosts .post (functionsOf strainedFields) ∧
    completionSurface.Traceless hosts (functionsOf strainedFields) ∧
    let final := (resolvePass completionSurface .post strainedFields arrivedRecord {}).record
    final.get? "type" = some (.text "unknown") ∧ final.get? "took" = none ∧
    final.get? "layer" = some (.text "api") ∧ final.get? "copy" = some (.text "api") ∧
    (resolvePass completionSurface.overheard .post strainedFields arrivedRecord ({}, [])).notes.filter
        Diagnostic.IsFailure =
      [.resolutionFailed "type" .post (.fault .key "'content-type'"),
        .resolutionFailed "took" .post (.fault .value "no clock"),
        .resolutionFailed "layer" .post (.fault .runtime "late")] := by
  have hrest : AtRest (functionsOf strainedFields) := by
    rw [show functionsOf strainedFields = [.script (.fail "ValueError" "no clock"),
      .script (.fail "RuntimeError" "late"), .script (.recorded "layer" none)] from rfl]
    simp only [AtRest, List.forall_mem_cons]
    exact ⟨fun _ _ => rfl, fun _ _ => rfl, fun _ _ => rfl, nofun⟩
  have htraceless : completionSurface.Traceless (fun w w' => w.hosts = w'.hosts) (functionsOf strainedFields) := by
    intro f hf record w w' h _
    rw [hrest f hf]
    exact h
  obtain ⟨-, ⟨-, hfinal⟩, -, -, hnotes⟩ := resolvePass_failures .post strainedFields arrivedRecord {} hrest.spares
  refine ⟨hrest.spares, hrest.simulates, htraceless, ?_⟩
  dsimp only
  rw [hfinal _ hrest.simulates htraceless rfl, hnotes]
  exact ⟨rfl, rfl, rfl, rfl, rfl⟩

end ActivityLog
