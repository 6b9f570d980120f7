import ActivityLog.Proofs.Pass.Sweep

/-!
# What the batch and the references add

When functions leave the record alone, every fallback of the batch sees the record as the sweep left it: the results
are `answered` (`Batch.foldl_eq`). `get?_settled` says what each field then holds, and `resolvePass_record` that a
pass is a sweep, its results and the copies of the references. Whatever functions do, each field has
the result that the turn of its own fallback brought (`lookup_results`).
-/

namespace ActivityLog

open OrderedMap

variable {σ : Type} {env : Surface σ} {phase : Phase} {I : σ → Prop}
  {given : FieldFunction → Record → Except Failure Value} {record : Record}

/-! ## The batch -/

/-- The results of those fallbacks that give one, for a record. -/
def answered (given : FieldFunction → Record → Except Failure Value) (record : Record)
    (entries : List (String × Option FieldFunction)) : List (String × Value) :=
  entries.filterMap fun e => e.2.bind fun f => (given f record).toOption.map fun v => (e.1, v)

theorem answered_cons (e : String × Option FieldFunction) (rest : List (String × Option FieldFunction)) :
    answered given record (e :: rest) = answered given record [e] ++ answered given record rest :=
  List.filterMap_append (l := [e])

theorem fst_answered_sublist (entries : List (String × Option FieldFunction)) :
    ((answered given record entries).map Prod.fst).Sublist (entries.map Prod.fst) := by
  induction entries with
  | nil => exact .slnil
  | cons e rest ih =>
    rw [answered_cons, List.map_append, List.map_cons, ← List.singleton_append (x := e.1)]
    refine List.Sublist.append ?_ ih
    rcases e with ⟨name, _ | f⟩
    · exact List.nil_sublist _
    · cases h : given f record <;> simp [answered, h, Except.toOption]

theorem nodup_answered {queue : FallbackQueue} (h : queue.WellFormed) :
    ((answered given record queue.entries).map Prod.fst).Nodup := h.sublist (fst_answered_sublist _)

/-- Each name has the result of its own fallback. -/
theorem lookup_answered {entries : List (String × Option FieldFunction)} (h : (entries.map Prod.fst).Nodup)
    (name : String) : (answered given record entries).lookup name =
      (entries.lookup name).bind fun f? => f?.bind fun f => (given f record).toOption := by
  induction entries with
  | nil => rfl
  | cons e rest ih =>
    obtain ⟨k, f?⟩ := e
    rw [List.map_cons, List.nodup_cons] at h
    rw [answered_cons, List.lookup_append, ih h.2, lookup_cons_ite]
    by_cases hk : name = k
    · subst hk
      have hn : rest.lookup name = none := by
        rw [← Option.not_isSome_iff_eq_none, lookup_isSome_iff]
        exact h.1
      rcases f? with _ | f
      · simp [answered, hn]
      · cases hg : given f record <;> simp [answered, hn, hg, Except.toOption]
    · rcases f? with _ | f
      · simp [answered, hk]
      · cases hg : given f record <;> simp [answered, hk, hg, Except.toOption, lookup_cons_ite]

namespace Batch

theorem step_record (phase : Phase) {b : Batch σ} {e : String × Option FieldFunction} {fs : List FieldFunction}
    (he : ∀ f, e.2 = some f → f ∈ fs) (hsp : env.Spares fs) : (step env phase b e).record = b.record := by
  rcases e with ⟨name, _ | f⟩
  · rfl
  · have hrec := hsp f (he f rfl) b.record b.state
    unfold step
    dsimp only
    split <;> exact hrec

/-- Fallbacks leave the record as it is. -/
theorem foldl_record (phase : Phase) {entries : List (String × Option FieldFunction)} {fs : List FieldFunction}
    (he : ∀ name f, (name, some f) ∈ entries → f ∈ fs) (hsp : env.Spares fs) (b : Batch σ) :
    (entries.foldl (step env phase) b).record = b.record := by
  induction entries generalizing b with
  | nil => rfl
  | cons e rest ih =>
    have hfirst : ∀ f, e.2 = some f → f ∈ fs := fun f hf => he e.1 f (by rw [← hf]; exact List.mem_cons_self)
    exact (ih (fun n f hf => he n f (List.mem_cons_of_mem _ hf)) _).trans (step_record phase hfirst hsp)

/-- The result that the turn of a fallback brings, if it brings one. -/
def result? (env : Surface σ) (b : Batch σ) (e : String × Option FieldFunction) : Option (String × Value) :=
  e.2.bind fun f => (env.call f b.record b.state).1.toOption.map fun v => (e.1, v)

theorem step_results (env : Surface σ) (phase : Phase) (b : Batch σ) (e : String × Option FieldFunction) :
    (step env phase b e).results = b.results ++ (result? env b e).toList := by
  rcases e with ⟨name, _ | f⟩
  · exact (List.append_nil _).symm
  · unfold step result?
    cases h : (env.call f b.record b.state).1 <;> simp [h, Except.toOption]

/-- Further fallbacks add results under their own names only. -/
theorem exists_results (env : Surface σ) (phase : Phase) (entries : List (String × Option FieldFunction))
    (b : Batch σ) : ∃ more, (entries.foldl (step env phase) b).results = b.results ++ more ∧
      (more.map Prod.fst).Sublist (entries.map Prod.fst) := by
  induction entries generalizing b with
  | nil => exact ⟨[], (List.append_nil _).symm, .slnil⟩
  | cons e rest ih =>
    obtain ⟨more, hmore, hnames⟩ := ih (step env phase b e)
    refine ⟨(result? env b e).toList ++ more, by rw [List.foldl_cons, hmore, step_results, List.append_assoc], ?_⟩
    rw [List.map_append, List.map_cons, ← List.singleton_append (x := e.1)]
    refine List.Sublist.append ?_ hnames
    rcases e with ⟨name, _ | f⟩
    · exact List.nil_sublist _
    · cases h : (env.call f b.record b.state).1 <;> simp [result?, h, Except.toOption]

theorem nodup_results {queue : FallbackQueue} (h : queue.WellFormed) (record : Record) (s : σ) :
    ((run env phase queue record s).results.map Prod.fst).Nodup := by
  obtain ⟨more, hmore, hnames⟩ := exists_results env phase queue.entries { record, state := s }
  rw [run, hmore]
  exact h.sublist hnames

theorem lookup_results_of_not_queued {queue : FallbackQueue} {name : String} (h : queue.get? name = none)
    (record : Record) (s : σ) : (run env phase queue record s).results.lookup name = none := by
  obtain ⟨more, hmore, hnames⟩ := exists_results env phase queue.entries { record, state := s }
  rw [run, hmore, ← Option.not_isSome_iff_eq_none, lookup_isSome_iff]
  exact fun hmem => get?_eq_none_iff.1 h (hnames.subset hmem)

/-- The batch when the turn of a fallback comes after the others before it. -/
def upTo (env : Surface σ) (phase : Phase) (before : List (String × Option FieldFunction)) (record : Record) (s : σ) :
    Batch σ := before.foldl (step env phase) { record, state := s }

/-- **Each name has the result that the turn of its own fallback brought.** -/
theorem lookup_results {queue : FallbackQueue} (h : queue.WellFormed) {name : String} {f? : Option FieldFunction}
    {before after : List (String × Option FieldFunction)} (hentries : queue.entries = before ++ (name, f?) :: after)
    (record : Record) (s : σ) :
    let turn := upTo env phase before record s
    (run env phase queue record s).results.lookup name =
      f?.bind fun f => (env.call f turn.record turn.state).1.toOption := by
  intro turn
  rw [WellFormed, keys, hentries, List.map_append, List.map_cons, List.nodup_append, List.nodup_cons] at h
  obtain ⟨-, ⟨hafter, -⟩, hbefore⟩ := h
  obtain ⟨earlier, hearlier, hnames⟩ := exists_results env phase before { record, state := s }
  obtain ⟨later, hlater, hnames'⟩ := exists_results env phase after (step env phase turn (name, f?))
  have hfirst : earlier.lookup name = none := by
    rw [← Option.not_isSome_iff_eq_none, lookup_isSome_iff]
    exact fun hmem => hbefore name (hnames.subset hmem) name List.mem_cons_self rfl
  have hlast : later.lookup name = none := by
    rw [← Option.not_isSome_iff_eq_none, lookup_isSome_iff]
    exact fun hmem => hafter (hnames'.subset hmem)
  have hresults : (run env phase queue record s).results = earlier ++ (result? env turn (name, f?)).toList ++ later := by
    rw [run, hentries, List.foldl_append, List.foldl_cons]
    refine hlater.trans ?_
    rw [step_results, show turn.results = earlier from hearlier]
  rw [hresults, List.lookup_append, List.lookup_append, hfirst, hlast, Option.none_or, Option.or_none]
  cases f? with
  | none => rfl
  | some f => cases hc : (env.call f turn.record turn.state).1 <;> simp [result?, hc, Except.toOption]

/-- One call: the record stays as it is, and the fallback's result comes to the others. -/
theorem step_eq (phase : Phase) {b : Batch σ} {e : String × Option FieldFunction} {fs : List FieldFunction}
    (he : ∀ f, e.2 = some f → f ∈ fs) (hsp : env.Spares fs) (ha : env.Answers I given fs) (hs : I b.state) :
    (step env phase b e).record = b.record ∧ I (step env phase b e).state ∧
      (step env phase b e).results = b.results ++ answered given b.record [e] := by
  rcases e with ⟨name, _ | f⟩
  · exact ⟨rfl, hs, by simp [step, answered]⟩
  · have hf : f ∈ fs := he f rfl
    have hrec := hsp f hf b.record b.state
    have hst := ha.heard _ (ha.call f hf b.record b.state hs)
    have hval := ha.gives f hf b.record b.state hs
    unfold step
    cases hg : given f b.record <;> rw [hg] at hval <;>
      simp [hval, hrec, hst, answered, hg, Except.toOption]

theorem foldl_eq (phase : Phase) {entries : List (String × Option FieldFunction)} {fs : List FieldFunction}
    (he : ∀ name f, (name, some f) ∈ entries → f ∈ fs) (hsp : env.Spares fs) (ha : env.Answers I given fs)
    {b : Batch σ} (hs : I b.state) :
    (entries.foldl (step env phase) b).record = b.record ∧
      (entries.foldl (step env phase) b).results = b.results ++ answered given b.record entries := by
  induction entries generalizing b with
  | nil => exact ⟨rfl, by simp [answered]⟩
  | cons e rest ih =>
    have hfirst : ∀ f, e.2 = some f → f ∈ fs := fun f hf => he e.1 f (by rw [← hf]; exact List.mem_cons_self)
    obtain ⟨hrec, hst, hres⟩ := step_eq phase hfirst hsp ha hs
    obtain ⟨hrec', hres'⟩ := ih (fun n f hf => he n f (List.mem_cons_of_mem _ hf)) hst
    refine ⟨hrec'.trans hrec, ?_⟩
    rw [List.foldl_cons, hres', hres, hrec, answered_cons e rest, List.append_assoc]

end Batch

/-! ## The whole pass -/

namespace Sweep

variable {sw : Sweep σ} {ds : List Descriptor}

/-- The record after the results of the batch have been written. -/
def settled (given : FieldFunction → Record → Except Failure Value) (sw : Sweep σ) : Record :=
  storeAll sw.record (answered given sw.record sw.queue.entries)

theorem settled_clean (h : sw.record.Clean) : (settled given sw).Clean := h.storeAll _

theorem get?_settled (h : sw.queue.WellFormed) (name : String) : (settled given sw).get? name =
    ((sw.queue.get? name).bind fun f? => f?.bind fun f => (given f sw.record).toOption).elim
      (sw.record.get? name) Value.toOption := by
  rw [settled, get?_storeAll (nodup_answered h), lookup_answered h]
  rfl

theorem get?_settled_of_not_queued (h : sw.queue.WellFormed) {name : String} (hq : sw.queue.get? name = none) :
    (settled given sw).get? name = sw.record.get? name := by
  rw [get?_settled h, hq]
  rfl

theorem get?_settled_of_queued (h : sw.queue.WellFormed) {name : String} {f? : Option FieldFunction}
    (hq : sw.queue.get? name = some f?) : (settled given sw).get? name =
      (f?.bind fun f => (given f sw.record).toOption).elim (sw.record.get? name) Value.toOption := by
  rw [get?_settled h, hq]
  rfl

end Sweep

/-- **A pass is a sweep, the results of its batch, and the copies of its references.** -/
theorem resolvePass_record {ds : List Descriptor} {s : σ} (hsp : env.Spares (functionsOf ds))
    (ha : env.Answers I given (functionsOf ds)) (hs : I s) :
    (resolvePass env phase ds record s).record =
      copyAliases ((Sweep.run env phase ds record s).settled given)
        (Sweep.run env phase ds record s).aliases.entries := by
  have hordered : Sweep.Ordered ds (Sweep.run env phase ds record s) :=
    Sweep.run_ordered env phase (fun _ hd => hd) record s
  have hstate : I (Sweep.run env phase ds record s).state := Sweep.run_state ha hs
  obtain ⟨hrec, hres⟩ := Batch.foldl_eq phase hordered.ours hsp ha (b := { record := _, state := _ }) hstate
  rw [resolvePass, Batch.run, hrec, hres]
  rfl

end ActivityLog
