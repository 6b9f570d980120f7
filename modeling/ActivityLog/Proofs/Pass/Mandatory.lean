import ActivityLog.Proofs.Pass.References

/-!
# Mandatory fields with a default

A mandatory field with a default has a value when the sweep is over (`Sweep.value_run_of_split`), whatever the record
held before and whatever functions give or fail with. It is missing in the end just if it is special and its fallback
gave an absent value, which then takes the default out again: `resolvePass_mandatory_missing_iff`.
-/

namespace ActivityLog

open OrderedMap

variable {σ : Type} {env : Surface σ} {phase : Phase} {record : Record} {s : σ} {ds before after : List Descriptor}
  {d : Descriptor} {queue : FallbackQueue}

/-- Filling in leaves a mandatory field with a default with a value. -/
theorem applyDefaults_value_ne_null (hm : d.mandatory = true) (hd : d.default ≠ .null) :
    (applyDefaults phase d record queue).1.value d.name ≠ .null := by
  unfold applyDefaults
  split
  · next h =>
    simp only [hm, Bool.not_true, Bool.false_or, Bool.not_eq_true'] at h
    exact Value.isNull_eq_false_iff.1 h
  · rw [if_pos (by simp [Value.isNull_eq_false_iff.2 hd]), value, get?_insert_self]
    exact hd

/-- A field with a default does not wait for want of a value. -/
theorem applyDefaults_queue_of_default (hd : d.default ≠ .null) :
    (applyDefaults phase d record queue).2.1 = queue := by
  unfold applyDefaults
  split
  · rfl
  · rw [if_pos (by simp [Value.isNull_eq_false_iff.2 hd])]

namespace Sweep

variable (phase) (hnames : ((before ++ d :: after).map (·.name)).Nodup)
  (hspares : env.Spares (functionsOf (before ++ d :: after))) (record : Record) (s : σ)
  (hself : ∀ target, d.source ≠ .self target) (hd : d.default ≠ .null)

include hnames hspares hself hd

/-- At the end of the sweep a mandatory field with a default has a value. -/
theorem value_run_of_split (hm : d.mandatory = true) :
    (run env phase (before ++ d :: after) record s).record.value d.name ≠ .null := by
  rw [value, (end_sameAt phase hnames hspares s).record, step_record (spares_of_split hspares) hself]
  exact applyDefaults_value_ne_null hm hd

/-- A special field with a default waits for its fallback. -/
theorem run_queue_of_special {f : FieldFunction} (hs : d.source = .special) (hf : d.fallback = some f) :
    (run env phase (before ++ d :: after) record s).queue.get? d.name = some (some f) := by
  rw [(end_sameAt phase hnames hspares s).queue, step_queue (spares_of_split hspares) hself,
    applyDefaults_queue_of_default hd, enqueueSpecial_of_special hs hf, get?_insert_self]

/-- Any other field with a default does not wait. -/
theorem run_queue_of_ordinary (h : d.source ≠ .special ∨ d.fallback = none) :
    (run env phase (before ++ d :: after) record s).queue.get? d.name = none := by
  rw [(end_sameAt phase hnames hspares s).queue, step_queue (spares_of_split hspares) hself,
    applyDefaults_queue_of_default hd, enqueueSpecial_of_not h, (turn_sameAt phase hnames hspares s).queue]
  rfl

end Sweep

/-- What the batch did not give for a name it did not take away. -/
theorem value_eq_null_iff_of_not_alias {name : String} (hspares : env.Spares (functionsOf ds))
    (halias : ¬IsAlias ds name) (hheld : (Sweep.run env phase ds record s).record.value name ≠ .null) :
    let sw := Sweep.run env phase ds record s
    (resolvePass env phase ds record s).record.value name = .null ↔
      (Batch.run env phase sw.queue sw.record sw.state).results.lookup name = some .null := by
  intro sw
  rw [value, resolvePass_get?_of_not_alias halias, get?_unlinked phase hspares record s name]
  cases hr : (Batch.run env phase sw.queue sw.record sw.state).results.lookup name with
  | none => exact iff_of_false hheld (Option.some_ne_none Value.null).symm
  | some v => cases v <;> simp [Value.toOption]

/-- **A mandatory field with a default is missing in the end just if it is special and its fallback gave an absent
value**, at its turn among those that waited. The fields have different names; the record may have held anything, and
the functions may fail and may answer differently each time, as long as they leave the record alone. -/
theorem resolvePass_mandatory_missing_iff (phase : Phase) (record : Record) (s : σ)
    (hnames : (ds.map (·.name)).Nodup) (hspares : env.Spares (functionsOf ds)) :
    let sw := Sweep.run env phase ds record s
    ∀ d ∈ ds, d.mandatory = true → d.default ≠ .null → ¬d.source.IsSelf →
      ((resolvePass env phase ds record s).record.value d.name = .null ↔
        d.source = .special ∧ ∃ f earlier later, d.fallback = some f ∧
          sw.queue.entries = earlier ++ (d.name, some f) :: later ∧
          (env.call f sw.record (Batch.upTo env phase earlier sw.record sw.state).state).1 = .ok .null) := by
  intro sw d hd hm hdefault hnot
  have hself : ∀ target, d.source ≠ .self target := fun t ht => hnot (by rw [ht]; trivial)
  have halias : ¬IsAlias ds d.name := by
    rintro ⟨e, he, hname, heself⟩
    rw [List.inj_on_of_nodup_map hnames he hd hname] at heself
    exact hnot heself
  have hordered : Sweep.Ordered ds sw := Sweep.run_ordered env phase (fun _ he => he) record s
  obtain ⟨before, after, hds⟩ := List.append_of_mem hd
  have hheld : sw.record.value d.name ≠ .null := by
    subst hds
    exact Sweep.value_run_of_split phase hnames hspares record s hself hdefault hm
  refine (value_eq_null_iff_of_not_alias hspares halias hheld).trans ?_
  -- Of a fallback in the queue the batch has the result of its call, with the record of the sweep.
  have hresult (f : FieldFunction) (earlier later : List (String × Option FieldFunction))
      (hentries : sw.queue.entries = earlier ++ (d.name, some f) :: later) :
      (Batch.run env phase sw.queue sw.record sw.state).results.lookup d.name =
        (env.call f sw.record (Batch.upTo env phase earlier sw.record sw.state).state).1.toOption := by
    have hrecord : (Batch.upTo env phase earlier sw.record sw.state).record = sw.record :=
      Batch.foldl_record phase (fun n g hg => hordered.ours n g (hentries ▸ List.mem_append_left _ hg)) hspares _
    rw [Batch.lookup_results hordered.queue hentries sw.record sw.state, hrecord]
    rfl
  constructor
  · intro hnull
    have hqueued : sw.queue.get? d.name ≠ none := fun h => by
      rw [Batch.lookup_results_of_not_queued h] at hnull
      cases hnull
    have hspecial : ¬(d.source ≠ .special ∨ d.fallback = none) := by
      subst hds
      exact mt (Sweep.run_queue_of_ordinary phase hnames hspares record s hself hdefault) hqueued
    rw [not_or, not_not] at hspecial
    obtain ⟨f, hf⟩ := Option.ne_none_iff_exists'.1 hspecial.2
    have hq : sw.queue.get? d.name = some (some f) := by
      subst hds
      exact Sweep.run_queue_of_special phase hnames hspares record s hself hdefault hspecial.1 hf
    obtain ⟨earlier, later, hentries, -⟩ := List.lookup_eq_some_iff.1 hq
    rw [hresult f earlier later hentries] at hnull
    refine ⟨hspecial.1, f, earlier, later, hf, hentries, ?_⟩
    generalize (env.call f sw.record _).1 = result at hnull ⊢
    cases result <;> simp_all [Except.toOption]
  · rintro ⟨-, f, earlier, later, -, hentries, hcall⟩
    rw [hresult f earlier later hentries, hcall]
    rfl

/-- A mandatory special field with a default and a fallback, and a header with a default that cannot be read. -/
def defaultedFields (fallback : Script Value) : List Descriptor :=
  [⟨"status", .special, true, .int (-1), some (.script fallback)⟩,
    ⟨"type", .header "content-type", true, .text "unknown", none⟩]

theorem spares_defaultedFields {fallback : Script Value}
    (h : ∀ record s, (completionSurface.call (.script fallback) record s).2.1 = record) :
    completionSurface.Spares (functionsOf (defaultedFields fallback)) := by
  intro f hf record s
  rw [show functionsOf (defaultedFields fallback) = [.script fallback] from rfl, List.mem_singleton] at hf
  rw [hf]
  exact h record s

/-- A fallback that fails leaves the default where it is, and a field that is not special keeps it anyway. -/
theorem resolvePass_mandatory_missing_iff_outage :
    ((defaultedFields (.fail "ValueError" "late")).map (·.name)).Nodup ∧
    completionSurface.Spares (functionsOf (defaultedFields (.fail "ValueError" "late"))) ∧
    let final := (resolvePass completionSurface .pre (defaultedFields (.fail "ValueError" "late")) .empty {}).record
    final.value "status" ≠ .null ∧ final.value "type" ≠ .null := by
  have hnames : ((defaultedFields (.fail "ValueError" "late")).map (·.name)).Nodup := by decide
  have hspares : completionSurface.Spares (functionsOf (defaultedFields (.fail "ValueError" "late"))) :=
    spares_defaultedFields fun _ _ => rfl
  have hmissing := resolvePass_mandatory_missing_iff .pre .empty {} hnames hspares
  refine ⟨hnames, hspares, fun h => ?_, fun h => ?_⟩
  · obtain ⟨-, f, earlier, later, hf, -, hcall⟩ :=
      (hmissing _ List.mem_cons_self rfl (by nofun) id).1 h
    cases hf
    cases hcall
  · obtain ⟨hspecial, -⟩ := (hmissing _ (List.mem_cons_of_mem _ List.mem_cons_self) rfl (by nofun) id).1 h
    cases hspecial

/-- **A mandatory field with a default can be missing**: here the fallback of the special one gives an absent value. -/
theorem not_resolvePass_mandatory_present :
    ((defaultedFields (.const none)).map (·.name)).Nodup ∧
    completionSurface.Spares (functionsOf (defaultedFields (.const none))) ∧
    ¬∀ d ∈ defaultedFields (.const none), d.mandatory = true → d.default ≠ .null → ¬d.source.IsSelf →
      (resolvePass completionSurface .pre (defaultedFields (.const none)) .empty {}).record.value d.name ≠ .null := by
  refine ⟨by decide, spares_defaultedFields fun _ _ => rfl, fun h => ?_⟩
  exact h _ List.mem_cons_self rfl (by nofun) id rfl

end ActivityLog
