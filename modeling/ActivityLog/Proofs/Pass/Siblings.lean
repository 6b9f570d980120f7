import ActivityLog.Proofs.Pass.References
import ActivityLog.Proofs.Pass.Simulation
import Mathlib.Logic.Relation

/-!
# Fallbacks beside one another

What the fallbacks of one pass have to do with each other, names standing more than once allowed:
`resolvePass_siblings`.

- The calls of a pass are read off a surface that writes them down (`Surface.traced`): in the batch each fallback that
  waits is called once, with the record at the end of the sweep (`Batch.run_traced`).
- Two lists that differ in the fallbacks of one name (`Descriptor.Refitted`) go through the same sweep but for the
  queue at that name (`Sweep.run_siblings`). The copies then carry the difference along the references
  (`get?_copyAliases_of_closed`) and nowhere else.
-/

namespace ActivityLog

open OrderedMap

variable {σ : Type} {env : Surface σ} {phase : Phase} {I : σ → Prop}
  {given : FieldFunction → Record → Except Failure Value} {record : Record} {s : σ} {ds ds' : List Descriptor}
  {name other : String}

/-! ## Calls, written down -/

/-- The surface that writes down each call, with the record that the function got. -/
def Surface.traced (env : Surface σ) : Surface (σ × List (FieldFunction × Record)) where
  header phase name s := ((env.header phase name s.1).1, (env.header phase name s.1).2, s.2)
  field phase name s := ((env.field phase name s.1).1, (env.field phase name s.1).2, s.2)
  call f record s :=
    ((env.call f record s.1).1, (env.call f record s.1).2.1, (env.call f record s.1).2.2, s.2 ++ [(f, record)])
  heard s := ((env.heard s.1).1, (env.heard s.1).2, s.2)

/-- To write the calls down changes nothing else. -/
theorem Surface.traced_simulates (env : Surface σ) (phase : Phase) (fs : List FieldFunction) :
    env.traced.Simulates env (fun s t => s.1 = t) phase fs := by
  refine ⟨?_, ?_, ?_, ?_⟩
  · rintro name s _ rfl
    exact ⟨rfl, rfl⟩
  · rintro name s _ rfl
    exact ⟨rfl, rfl⟩
  · rintro f hf record s _ rfl
    exact ⟨rfl, rfl, rfl⟩
  · rintro s _ rfl
    rfl

theorem Surface.Spares.traced {fs : List FieldFunction} (h : env.Spares fs) : env.traced.Spares fs :=
  fun f hf record s => h f hf record s.1

/-- The calls that a queue asks for, with a record. -/
def FallbackQueue.calls (queue : FallbackQueue) (record : Record) : List (FieldFunction × Record) :=
  queue.entries.filterMap fun e => e.2.map fun f => (f, record)

theorem Batch.step_traced (env : Surface σ) (phase : Phase) (b : Batch (σ × List (FieldFunction × Record)))
    (e : String × Option FieldFunction) :
    (step env.traced phase b e).state.2 = b.state.2 ++ (e.2.map fun f => (f, b.record)).toList := by
  obtain ⟨name, _ | f⟩ := e
  · simp [step]
  · unfold step
    dsimp only [Surface.traced]
    split <;> rfl

/-- **Each fallback that waits is called once**, in order, and all of them get the record that the batch began with. -/
theorem Batch.run_traced (phase : Phase) {queue : FallbackQueue} {fs : List FieldFunction}
    (hours : ∀ name f, (name, some f) ∈ queue.entries → f ∈ fs) (hspares : env.Spares fs) (record : Record)
    (s : σ × List (FieldFunction × Record)) :
    (run env.traced phase queue record s).state.2 = s.2 ++ queue.calls record := by
  have hfold : ∀ (entries : List (String × Option FieldFunction)) (b : Batch (σ × List (FieldFunction × Record))),
      (∀ name f, (name, some f) ∈ entries → f ∈ fs) → (entries.foldl (step env.traced phase) b).state.2 =
        b.state.2 ++ entries.filterMap fun e => e.2.map fun f => (f, b.record) := by
    intro entries
    induction entries with
    | nil => exact fun b _ => (List.append_nil _).symm
    | cons e rest ih =>
      intro b he
      have hfirst : ∀ f, e.2 = some f → f ∈ fs := fun f hf => he e.1 f (by rw [← hf]; exact List.mem_cons_self)
      rw [List.foldl_cons, ih _ fun n f hf => he n f (List.mem_cons_of_mem _ hf), step_record phase hfirst hspares.traced,
        step_traced, List.append_assoc]
      cases h : e.2 <;> simp [h]
  exact hfold queue.entries _ hours

/-! ## Other fallbacks for one name -/

/-- The same field, but for the fallback of a field of this name. -/
structure Descriptor.Refitted (name : String) (d d' : Descriptor) : Prop where
  same : d' = { d with fallback := d'.fallback }
  others : d.name ≠ name → d' = d

/-- Filling in a field looks at its fallback only to put it off. -/
theorem applyDefaults_refitted {d d' : Descriptor} (h : d.Refitted name d') (queue queue' : FallbackQueue) :
    (applyDefaults phase d' record queue').1 = (applyDefaults phase d record queue).1 := by
  rw [h.same]
  unfold applyDefaults
  split
  · rfl
  · split <;> rfl

/-- Whether a field comes to wait does not depend on the queue. -/
theorem applyDefaults_queue_get? {d : Descriptor} {queue queue' : FallbackQueue}
    (h : queue'.get? other = queue.get? other) :
    (applyDefaults phase d record queue').2.1.get? other = (applyDefaults phase d record queue).2.1.get? other := by
  unfold applyDefaults
  split
  · exact h
  · split
    · exact h
    · simp only [get?_insert, h]

namespace Sweep

theorem enqueueSpecial_get? {d : Descriptor} {queue queue' : FallbackQueue}
    (h : queue'.get? other = queue.get? other) :
    (enqueueSpecial d queue').get? other = (enqueueSpecial d queue).get? other := by
  unfold enqueueSpecial
  split
  · simp only [get?_insert, h]
  · exact h

/-- Two sweeps that have come to the same, but for what waits under one name. -/
structure Siblings (name : String) (sw sw' : Sweep σ) : Prop where
  record : sw'.record = sw.record
  state : sw'.state = sw.state
  aliases : sw'.aliases = sw.aliases
  queue : ∀ other, other ≠ name → sw'.queue.get? other = sw.queue.get? other

theorem Siblings.step {sw sw' : Sweep σ} (h : Siblings name sw sw') {d d' : Descriptor} (hd : d.Refitted name d') :
    Siblings name (step env phase sw d) (step env phase sw' d') := by
  have hsource : d'.source = d.source := by rw [hd.same]
  have hname : d'.name = d.name := by rw [hd.same]
  have hqueue : ∀ other, other ≠ name →
      (Sweep.step env phase sw' d').queue.get? other = (Sweep.step env phase sw d).queue.get? other := by
    intro other ho
    by_cases hown : other = d.name
    · subst hown
      rw [hd.others ho]
      by_cases hs : ∃ target, d.source = .self target
      · obtain ⟨target, hs⟩ := hs
        rw [step_of_self hs, step_of_self hs]
        exact h.queue _ ho
      · rw [step_of_not_self fun t ht => hs ⟨t, ht⟩, step_of_not_self fun t ht => hs ⟨t, ht⟩, h.record, h.state]
        exact applyDefaults_queue_get? (enqueueSpecial_get? (h.queue _ ho))
    · rw [step_queue_get?_of_ne (hname ▸ hown), step_queue_get?_of_ne hown, h.queue other ho]
  by_cases hs : ∃ target, d.source = .self target
  · obtain ⟨target, hs⟩ := hs
    refine ⟨?_, ?_, ?_, hqueue⟩ <;> rw [step_of_self hs, step_of_self (hsource.trans hs)]
    · exact h.record
    · exact h.state
    · rw [h.aliases, hname]
  · have hself : ∀ target, d.source ≠ .self target := fun t ht => hs ⟨t, ht⟩
    have hself' : ∀ target, d'.source ≠ .self target := fun t ht => hs ⟨t, hsource ▸ ht⟩
    refine ⟨?_, ?_, ?_, hqueue⟩ <;> rw [step_of_not_self hself, step_of_not_self hself']
    · dsimp only
      rw [h.record, h.state, hsource, hname]
      exact applyDefaults_refitted hd _ _
    · dsimp only
      rw [h.record, h.state, hsource]
    · exact h.aliases

/-- **Other fallbacks for one name change nothing in the sweep but what waits under it.** -/
theorem run_siblings (h : List.Forall₂ (Descriptor.Refitted name) ds ds') (record : Record) (s : σ) :
    Siblings name (run env phase ds record s) (run env phase ds' record s) := by
  have hfold : ∀ sw sw' : Sweep σ, Siblings name sw sw' →
      Siblings name (ds.foldl (Sweep.step env phase) sw) (ds'.foldl (Sweep.step env phase) sw') := by
    induction h with
    | nil => exact fun _ _ h => h
    | cons hd _ ih => exact fun sw sw' h => ih _ _ (h.step hd)
  exact hfold _ _ ⟨rfl, rfl, rfl, fun _ _ => rfl⟩

end Sweep

/-! ## How far a difference gets -/

/-- The name is that of a reference that leads to the other one, over any number of references, or that name itself. -/
def Reaches (ds : List Descriptor) : String → String → Prop := Relation.ReflTransGen (RefersTo ds)

/-- Records that agree on names which refer to each other only agree on them after the copies. -/
theorem get?_copyAliases_of_closed {P : String → Prop} {aliases : List (String × String)}
    (hclosed : ∀ e ∈ aliases, P e.1 → P e.2) {r r' : Record} (h : ∀ x, P x → r'.get? x = r.get? x) :
    ∀ x, P x → (copyAliases r' aliases).get? x = (copyAliases r aliases).get? x := by
  unfold copyAliases
  induction aliases generalizing r r' with
  | nil => exact h
  | cons e rest ih =>
    refine ih (fun x hx => hclosed x (List.mem_cons_of_mem _ hx)) fun x hx => ?_
    rw [get?_store, get?_store]
    by_cases he : x = e.1
    · have htarget := h e.2 (hclosed e List.mem_cons_self (he ▸ hx))
      rw [if_pos he, if_pos he, value, value, htarget]
    · rw [if_neg he, if_neg he, h x hx]

/-- What reaches a name is not led to by what does not. -/
theorem not_reaches_of_mem {e : String × String} (he : e ∈ (OrderedMap.ofList (references ds)).entries)
    (h : ¬Reaches ds e.1 name) : ¬Reaches ds e.2 name := by
  have href : RefersTo ds e.1 e.2 := get?_references_iff.1 (get?_of_mem (wellFormed_ofList _) he)
  exact fun htarget => h (.head href htarget)

/-- **Fallbacks do not get in each other's way.** In a pass with functions of the record's contents that leave the
record alone,

- each fallback that still waits at the end of the sweep is called once, in the order of the queue, which holds no name
  twice, and each of these calls gets the record at the end of the sweep;
- with other fallbacks in the fields of one name the record is the same in the end at all names that do not reach that
  one over references.

The calls are those of the same pass on the surface that writes them down. -/
theorem resolvePass_siblings (phase : Phase) (record : Record) {s : σ}
    (hspares : env.Spares (functionsOf ds)) (hanswers : env.Answers I given (functionsOf ds)) (hs : I s) :
    let sw := Sweep.run env phase ds record s
    let watched := resolvePass env.traced phase ds record (s, [])
    (watched.record = (resolvePass env phase ds record s).record ∧
      watched.state.1 = (resolvePass env phase ds record s).state) ∧
    (sw.queue.WellFormed ∧
      watched.state.2 = (Sweep.run env.traced phase ds record (s, [])).state.2 ++ sw.queue.calls sw.record) ∧
    ∀ name ds', List.Forall₂ (Descriptor.Refitted name) ds ds' → env.Spares (functionsOf ds') →
      env.Answers I given (functionsOf ds') → ∀ other, ¬Reaches ds other name →
        (resolvePass env phase ds' record s).record.get? other =
          (resolvePass env phase ds record s).record.get? other := by
  have hordered : Sweep.Ordered ds (Sweep.run env phase ds record s) :=
    Sweep.run_ordered env phase (fun _ hd => hd) record s
  have hsim := env.traced_simulates phase (functionsOf ds)
  refine ⟨hsim.resolvePass record rfl, ⟨hordered.queue, ?calls⟩, ?others⟩
  case calls =>
    let S : σ × List (FieldFunction × Record) → σ → Prop := fun s t => s.1 = t
    have hstart : Sweep.Alike S (functionsOf ds) { record, state := (s, []) } { record, state := s } :=
      ⟨rfl, rfl, rfl, rfl, fun _ _ hf => absurd hf List.not_mem_nil⟩
    have hsweep : Sweep.Alike S _ (Sweep.run env.traced phase ds record (s, [])) (Sweep.run env phase ds record s) :=
      hstart.foldl hsim fun _ hf => hf
    rw [← hsweep.queue, ← hsweep.record]
    exact Batch.run_traced phase hsweep.ours hspares _ _
  case others =>
    intro name ds' hrefit hspares' hanswers' other hother
    have hordered' : Sweep.Ordered ds' (Sweep.run env phase ds' record s) :=
      Sweep.run_ordered env phase (fun _ hd => hd) record s
    have hsiblings : Sweep.Siblings name (Sweep.run env phase ds record s) (Sweep.run env phase ds' record s) :=
      Sweep.run_siblings hrefit record s
    have haliases : (Sweep.run env phase ds record s).aliases = .ofList (references ds) := Sweep.run_aliases ds s
    have hsettled : ∀ x, ¬Reaches ds x name →
        ((Sweep.run env phase ds' record s).settled given).get? x =
          ((Sweep.run env phase ds record s).settled given).get? x := by
      intro x hx
      have hne : x ≠ name := fun h => hx (h ▸ .refl)
      rw [Sweep.get?_settled hordered'.queue, Sweep.get?_settled hordered.queue, hsiblings.queue x hne,
        hsiblings.record]
    rw [resolvePass_record hspares' hanswers' hs, resolvePass_record hspares hanswers hs, hsiblings.aliases, haliases]
    exact get?_copyAliases_of_closed (fun e he => not_reaches_of_mem he) hsettled other hother

/-- Fields of a completion: the fallback of `seen` asks for `status`, which that of `status` gives; `shown` refers to
`status`, and `copy` to `seen`. -/
def siblingFields (fallback : Script Value) : List Descriptor :=
  [⟨"shown", .self "status", false, .null, none⟩,
    ⟨"status", .special, true, .null, some (.script fallback)⟩,
    ⟨"seen", .special, false, .null, some (.script (.recorded "status" (some (.text "none yet"))))⟩,
    ⟨"copy", .self "seen", false, .null, none⟩]

/-- The fallbacks at these fields: `copy` is the same if that of `status` fails, and both got the record as it came. -/
theorem resolvePass_siblings_outage :
    completionSurface.Spares (functionsOf (siblingFields (.const (some (.int 500))))) ∧
    completionSurface.Answers (fun _ => True) (fun f record => (completionSurface.call f record {}).1)
      (functionsOf (siblingFields (.const (some (.int 500))))) ∧
    List.Forall₂ (Descriptor.Refitted "status") (siblingFields (.const (some (.int 500))))
      (siblingFields (.fail "ValueError" "late")) ∧
    (resolvePass completionSurface.traced .post (siblingFields (.const (some (.int 500)))) arrivedRecord
        ({}, [])).state.2 =
      [(.script (.const (some (.int 500))), arrivedRecord),
        (.script (.recorded "status" (some (.text "none yet"))), arrivedRecord)] ∧
    (resolvePass completionSurface .post (siblingFields (.fail "ValueError" "late")) arrivedRecord {}).record.get?
        "copy" =
      (resolvePass completionSurface .post (siblingFields (.const (some (.int 500)))) arrivedRecord {}).record.get?
        "copy" := by
  have hspares (script : Script Value) (h : ∀ record s, (completionSurface.call (.script script) record s).2.1 = record) :
      completionSurface.Spares (functionsOf (siblingFields script)) := by
    intro f hf record s
    rcases List.mem_cons.1 hf with rfl | hf
    · exact h record s
    · rw [List.mem_singleton.1 hf]
      rfl
  have hanswers (script : Script Value) (h : ∀ record s, (completionSurface.call (.script script) record s).1 =
      (completionSurface.call (.script script) record {}).1) :
      completionSurface.Answers (fun _ => True) (fun f record => (completionSurface.call f record {}).1)
        (functionsOf (siblingFields script)) := by
    refine ⟨fun _ _ _ _ => trivial, fun _ _ _ _ => trivial, fun _ _ => trivial, fun _ _ _ _ _ => trivial, ?_⟩
    intro f hf record s _
    rcases List.mem_cons.1 hf with rfl | hf
    · exact h record s
    · rw [List.mem_singleton.1 hf]
      rfl
  have hrefit : List.Forall₂ (Descriptor.Refitted "status") (siblingFields (.const (some (.int 500))))
      (siblingFields (.fail "ValueError" "late")) :=
    .cons ⟨rfl, fun _ => rfl⟩ <| .cons ⟨rfl, fun h => absurd rfl h⟩ <| .cons ⟨rfl, fun _ => rfl⟩ <|
      .cons ⟨rfl, fun _ => rfl⟩ .nil
  have hcopy : ¬Reaches (siblingFields (.const (some (.int 500)))) "copy" "status" := by
    intro h
    rcases h.cases_head with h | ⟨_, hseen, h⟩
    · exact absurd h (by decide)
    · cases hseen.get?_references
      rcases h.cases_head with h | ⟨_, hnone, -⟩
      · exact absurd h (by decide)
      · cases hnone.get?_references
  have hgood := hspares (.const (some (.int 500))) fun _ _ => rfl
  have hgiven := hanswers (.const (some (.int 500))) fun _ _ => rfl
  obtain ⟨-, ⟨-, hcalls⟩, hothers⟩ := resolvePass_siblings .post arrivedRecord hgood hgiven (s := {}) trivial
  refine ⟨hgood, hgiven, hrefit, hcalls, ?_⟩
  exact hothers "status" _ hrefit (hspares _ fun _ _ => rfl) (hanswers _ fun _ _ => rfl) "copy" hcopy

end ActivityLog
