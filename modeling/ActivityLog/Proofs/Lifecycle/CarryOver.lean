import ActivityLog.Application
import ActivityLog.Proofs.Lifecycle.Completion
import ActivityLog.Proofs.Pass.Siblings

/-!
# From arrival to completion

What the pass of the arrival left under a name is carried over the pass of the completion if no field of that name
writes there (`Descriptor.Rests`): `Lifecycle.complete_carriesOver`.

- A turn of the sweep leaves the name's value where it is, lets nothing wait under the name, and calls its function
  with a record that holds the value (`Sweep.Holding.step`); so does the whole sweep (`Sweep.run_holding`), and with it
  the pass (`resolvePass_holding`).
- Where all fields rest, a pass does nothing but fill in mandatory fields that had no value (`Fills`,
  `resolvePass_of_rests`).
-/

namespace ActivityLog

open OrderedMap

variable {σ : Type} {env : Surface σ} {phase : Phase} {record : Record} {s : σ} {ds : List Descriptor} {d : Descriptor}
  {queue : FallbackQueue} {name : String} {v : Value}

/-! ## Fields that rest -/

/-- A field that writes nothing of its own in a phase: its source rests, or it is a special one without a fallback. -/
def Descriptor.Rests (phase : Phase) (d : Descriptor) : Prop :=
  d.source.Rests phase ∨ d.source = .special ∧ d.fallback = none

namespace Descriptor.Rests

theorem not_self (h : d.Rests phase) (target : String) : d.source ≠ .self target := by
  rcases h with h | ⟨h, -⟩
  · exact Source.not_self_of_rests h target
  · rw [h]
    exact nofun

theorem not_isSelf (h : d.Rests phase) : ¬d.source.IsSelf := by
  intro hself
  cases hsource : d.source <;> rw [hsource] at hself <;> first
    | exact hself
    | exact h.not_self _ hsource

theorem primary (h : d.Rests phase) (record : Record) (s : σ) :
    d.source.primary env phase record s = (.ok .unresolved, record, s) := by
  obtain ⟨name, source, mandatory, default, fallback⟩ := d
  rcases h with h | ⟨rfl, -⟩
  · rcases source with _ | _ | _ | _ | ⟨_ | _, _ | _⟩ | _ <;> cases phase <;> first
      | rfl
      | cases h
  · cases phase <;> rfl

theorem enqueueSpecial (h : d.Rests phase) (queue : FallbackQueue) : Sweep.enqueueSpecial d queue = queue := by
  refine Sweep.enqueueSpecial_of_not ?_ queue
  rcases h with h | ⟨-, h⟩
  · exact .inl (Source.not_special_of_rests h)
  · exact .inr h

/-- All that the turn of such a field does is to fill it in. -/
theorem step (h : d.Rests phase) (env : Surface σ) (sw : Sweep σ) :
    (Sweep.step env phase sw d).record = (applyDefaults phase d sw.record sw.queue).1 ∧
      (Sweep.step env phase sw d).queue = (applyDefaults phase d sw.record sw.queue).2.1 ∧
      (Sweep.step env phase sw d).state = (env.heard sw.state).2 := by
  rw [Sweep.step_of_not_self h.not_self]
  simp only [h.primary, h.enqueueSpecial, Sweep.write, and_self]

end Descriptor.Rests

/-! ## A value that is held -/

/-- The call of a source gets the record as it is. -/
theorem Source.mem_calls_primary {src : Source} {s : σ × List (FieldFunction × Record)}
    {call : FieldFunction × Record} (h : call ∈ (src.primary env.traced phase record s).2.2.2) :
    call ∈ s.2 ∨ call.2 = record := by
  have happended (f : FieldFunction) (h : call ∈ s.2 ++ [(f, record)]) : call ∈ s.2 ∨ call.2 = record := by
    refine (List.mem_append.1 h).imp_right fun h => ?_
    rw [List.mem_singleton.1 h]
  rcases src with _ | _ | _ | _ | ⟨_ | _, _ | _⟩ | _ <;> cases phase <;> first
    | exact .inl h
    | exact happended _ h

namespace Sweep

/-- A sweep in which the name holds a value that nothing waits to replace, and that all functions so far could see. -/
structure Holding (name : String) (v : Value) (sw : Sweep (σ × List (FieldFunction × Record))) : Prop where
  record : sw.record.get? name = some v
  queue : sw.queue.get? name = none
  calls : ∀ call ∈ sw.state.2, call.2.get? name = some v

/-- **A turn leaves a value where it is**, if it is that of another name or of a field that rests. -/
theorem Holding.step {sw : Sweep (σ × List (FieldFunction × Record))} (h : Holding name v sw) (hv : v ≠ .null)
    (hd : d.name = name → d.Rests phase) (hspares : env.Spares d.functions) :
    Holding name v (step env.traced phase sw d) := by
  by_cases hname : d.name = name
  · have hheld : sw.record.value d.name ≠ .null := by
      rw [hname, value, h.record]
      exact hv
    obtain ⟨hrecord, hqueue, hstate⟩ := (hd hname).step env.traced sw
    rw [applyDefaults_of_value hheld] at hrecord hqueue
    refine ⟨hrecord ▸ h.record, hqueue ▸ h.queue, ?_⟩
    rw [hstate]
    exact h.calls
  · have hne : name ≠ d.name := fun heq => hname heq.symm
    refine ⟨?_, ?_, ?_⟩
    · rw [step_get?_of_ne hspares.traced hne]
      exact h.record
    · rw [step_queue_get?_of_ne hne]
      exact h.queue
    · intro call hcall
      rcases d.reference_or with ⟨target, hself⟩ | hself
      · rw [step_of_self hself] at hcall
        exact h.calls call hcall
      · rw [step_of_not_self hself] at hcall
        rcases Source.mem_calls_primary hcall with hbefore | hnow
        · exact h.calls call hbefore
        · rw [hnow]
          exact h.record

/-- **A sweep leaves a value where it is** if all fields of its name rest. -/
theorem run_holding (phase : Phase) (hheld : record.get? name = some v) (hv : v ≠ .null)
    (hrests : ∀ d ∈ ds, d.name = name → d.Rests phase) (hspares : env.Spares (functionsOf ds)) (s : σ) :
    Holding name v (run env.traced phase ds record (s, [])) := by
  have hstart : Holding name v { record, state := ((s, []) : σ × List (FieldFunction × Record)) } :=
    ⟨hheld, rfl, fun _ h => absurd h List.not_mem_nil⟩
  refine List.foldlRecOn ds _ hstart fun sw h d hd => ?_
  have hspared : env.Spares d.functions := hspares.mono fun f hf => mem_functionsOf hd hf
  exact h.step hv (hrests d hd) hspared

end Sweep

/-- **A pass leaves a value where it is** if all fields of its name rest. Every function that is called gets a record
with that value, and every reference to the name comes to the value. -/
theorem resolvePass_holding (phase : Phase) (hheld : record.get? name = some v) (hv : v ≠ .null)
    (hrests : ∀ d ∈ ds, d.name = name → d.Rests phase) (hspares : env.Spares (functionsOf ds)) (s : σ) :
    let final := (resolvePass env phase ds record s).record
    (∀ call ∈ (resolvePass env.traced phase ds record (s, [])).state.2, call.2.get? name = some v) ∧
      (∀ reference, RefersTo ds reference name → final.get? reference = some v) ∧ final.get? name = some v := by
  have hsame := ((env.traced_simulates phase (functionsOf ds)).resolvePass record (rfl : (s, []).1 = s)).1
  have hsweep : Sweep.Holding name v (Sweep.run env.traced phase ds record (s, [])) :=
    Sweep.run_holding phase hheld hv hrests hspares s
  have hordered : Sweep.Ordered ds (Sweep.run env.traced phase ds record (s, [])) :=
    Sweep.run_ordered env.traced phase (fun _ hd => hd) record _
  have halias : ¬IsAlias ds name := by
    rintro ⟨d, hd, hname, hself⟩
    exact (hrests d hd hname).not_isSelf hself
  have hunlinked : (unlinked env.traced phase ds record (s, [])).get? name = some v := by
    rw [get?_unlinked phase hspares.traced, Batch.lookup_results_of_not_queued hsweep.queue]
    exact hsweep.record
  dsimp only
  rw [← hsame]
  refine ⟨?calls, ?references, ?value⟩
  case calls =>
    intro call hcall
    have hbatch : (resolvePass env.traced phase ds record (s, [])).state.2 = _ :=
      Batch.run_traced phase hordered.ours hspares _ _
    rw [hbatch] at hcall
    rcases List.mem_append.1 hcall with hearly | hlate
    · exact hsweep.calls call hearly
    · obtain ⟨e, -, he⟩ := List.mem_filterMap.1 hlate
      obtain ⟨f, -, rfl⟩ := Option.map_eq_some_iff.1 he
      exact hsweep.record
  case references =>
    intro reference href
    have hnodup := wellFormed_ofList (references ds)
    obtain ⟨before, after, hentries, -⟩ := List.lookup_eq_some_iff.1 href.get?_references
    have hbefore : name ∉ before.map Prod.fst := by
      intro hmem
      rw [isAlias_iff, ← mem_keys_ofList, OrderedMap.keys, hentries, List.map_append] at halias
      exact halias (List.mem_append_left _ hmem)
    rw [OrderedMap.WellFormed, OrderedMap.keys, hentries, List.map_append, List.map_cons] at hnodup
    have hafter : reference ∉ after.map Prod.fst := (List.nodup_cons.1 (List.nodup_append.1 hnodup).2.1).1
    rw [resolvePass_eq_unlinked, hentries]
    exact get?_copyAliases_of_held hbefore hafter hunlinked hv
  case value =>
    rw [resolvePass_get?_of_not_alias halias]
    exact hunlinked

/-! ## Lists of fields that rest -/

/-- A value that a pass may fill a field in with: the name had none, and the value is the default of a mandatory field
of that name, or what the fallback of one without a default gave of the record `seen`. -/
def Fills (env : Surface σ) (ds : List Descriptor) (record seen : Record) (entry : String × Value) : Prop :=
  record.value entry.1 = .null ∧ ∃ d ∈ ds, d.name = entry.1 ∧ d.mandatory = true ∧
    (d.default ≠ .null ∧ entry.2 = d.default ∨
      d.default = .null ∧ ∃ f s, d.fallback = some f ∧ (env.call f seen s).1 = .ok entry.2)

namespace Sweep

/-- A default that a sweep fills a field in with. -/
def FillsAtOnce (ds : List Descriptor) (record : Record) (entry : String × Value) : Prop :=
  record.value entry.1 = .null ∧ ∃ d ∈ ds, d.name = entry.1 ∧ d.mandatory = true ∧ d.default ≠ .null ∧
    entry.2 = d.default

/-- What waits at the end of a sweep of fields that rest. -/
def FillsLater (ds : List Descriptor) (record : Record) (entry : String × Option FieldFunction) : Prop :=
  record.value entry.1 = .null ∧ ∃ d ∈ ds, d.name = entry.1 ∧ d.mandatory = true ∧ d.default = .null ∧
    d.fallback = entry.2

/-- A sweep that has only filled in names without a value, or put that off. -/
structure Filling (ds : List Descriptor) (record : Record) (sw : Sweep σ) : Prop where
  filled : ∃ fills, sw.record = storeAll record fills ∧ ∀ e ∈ fills, FillsAtOnce ds record e
  waiting : ∀ e ∈ sw.queue.entries, FillsLater ds record e

/-- A name that has no value now had none before. -/
theorem Filling.value_eq_null {sw : Sweep σ} (h : Filling ds record sw) (hnull : sw.record.value name = .null) :
    record.value name = .null := by
  obtain ⟨fills, hrecord, hfills⟩ := h.filled
  by_cases hmem : name ∈ fills.map Prod.fst
  · obtain ⟨e, he, rfl⟩ := List.mem_map.1 hmem
    exact (hfills e he).1
  · rw [value, hrecord, get?_storeAll_of_not_mem hmem] at hnull
    exact hnull

theorem Filling.step {sw : Sweep σ} (h : Filling ds record sw) (hd : d ∈ ds) (hrests : d.Rests phase) :
    Filling ds record (step env phase sw d) := by
  obtain ⟨hrecord, hqueue, -⟩ := hrests.step env sw
  have hunchanged (heq : applyDefaults phase d sw.record sw.queue = (sw.record, sw.queue, [])) :
      Filling ds record (Sweep.step env phase sw d) := by
    rw [heq] at hrecord hqueue
    exact ⟨hrecord ▸ h.filled, hqueue ▸ h.waiting⟩
  by_cases hheld : sw.record.value d.name = .null
  case neg => exact hunchanged (applyDefaults_of_value hheld)
  have hnone : record.value d.name = .null := h.value_eq_null hheld
  cases hm : d.mandatory with
  | false => exact hunchanged (applyDefaults_of_optional hm)
  | true =>
    by_cases hdefault : d.default = .null
    · rw [applyDefaults_of_no_default hm hheld hdefault] at hrecord hqueue
      refine ⟨hrecord ▸ h.filled, fun e he => ?_⟩
      rw [hqueue] at he
      rcases mem_entries_insert he with rfl | he
      · exact ⟨hnone, d, hd, rfl, hm, hdefault, rfl⟩
      · exact h.waiting e he
    · rw [applyDefaults_of_default hm hheld hdefault] at hrecord hqueue
      obtain ⟨fills, hfilled, hfills⟩ := h.filled
      refine ⟨⟨fills ++ [(d.name, d.default)], ?_, fun e he => ?_⟩, hqueue ▸ h.waiting⟩
      · rw [hrecord, storeAll_append, ← hfilled]
        rfl
      · rcases List.mem_append.1 he with he | he
        · exact hfills e he
        · rw [List.mem_singleton.1 he]
          exact ⟨hnone, d, hd, rfl, hm, hdefault, rfl⟩

theorem run_filling (env : Surface σ) (phase : Phase) (hrests : ∀ d ∈ ds, d.Rests phase) (record : Record) (s : σ) :
    Filling ds record (run env phase ds record s) := by
  have hstart : Filling ds record { record, state := s } :=
    ⟨⟨[], rfl, fun _ h => absurd h List.not_mem_nil⟩, fun _ h => absurd h List.not_mem_nil⟩
  exact List.foldlRecOn ds _ hstart fun sw h d hd => h.step hd (hrests d hd)

end Sweep

/-- Each result of a batch is what a fallback that waited under the name gave of the record. -/
theorem Batch.mem_results {fallbacks : List FieldFunction}
    (hours : ∀ name f, (name, some f) ∈ queue.entries → f ∈ fallbacks) (hspares : env.Spares fallbacks)
    {entry : String × Value} (h : entry ∈ (run env phase queue record s).results) :
    ∃ f s, (entry.1, some f) ∈ queue.entries ∧ (env.call f record s).1 = .ok entry.2 := by
  let Given (b : Batch σ) : Prop := b.record = record ∧ ∀ entry ∈ b.results,
    ∃ f s, (entry.1, some f) ∈ queue.entries ∧ (env.call f record s).1 = .ok entry.2
  have hstart : Given { record, state := s } := ⟨rfl, fun _ h => absurd h List.not_mem_nil⟩
  have hrun : Given (run env phase queue record s) := by
    refine List.foldlRecOn queue.entries _ hstart fun b ⟨hrecord, hresults⟩ e he => ⟨?_, fun entry hentry => ?_⟩
    · rw [step_record phase (fun f hf => hours e.1 f (by rwa [← hf])) hspares, hrecord]
    · rw [step_results, List.mem_append, Option.mem_toList] at hentry
      rcases hentry with hearlier | hnow
      · exact hresults entry hearlier
      · obtain ⟨name, f?⟩ := e
        obtain ⟨f, rfl, hgiven⟩ := Option.bind_eq_some_iff.1 hnow
        obtain ⟨given, hok, rfl⟩ := Option.map_eq_some_iff.1 hgiven
        refine ⟨f, b.state, he, ?_⟩
        rw [← hrecord]
        cases hcall : (env.call f b.record b.state).1 <;> rw [hcall] at hok <;> cases hok
        rfl
  exact hrun.2 entry h

/-- **Where all fields rest, a pass only fills in mandatory fields that had no value.** The rest of the record stays
exactly as it was. -/
theorem resolvePass_of_rests (phase : Phase) (hrests : ∀ d ∈ ds, d.Rests phase) (hspares : env.Spares (functionsOf ds))
    (record : Record) (s : σ) : ∃ fills, (resolvePass env phase ds record s).record = storeAll record fills ∧
      ∀ e ∈ fills, Fills env ds record (Sweep.run env phase ds record s).record e := by
  have hsweep : Sweep.Filling ds record (Sweep.run env phase ds record s) :=
    Sweep.run_filling env phase hrests record s
  have hordered : Sweep.Ordered ds (Sweep.run env phase ds record s) :=
    Sweep.run_ordered env phase (fun _ hd => hd) record s
  have hreferences : references ds = [] := by
    rw [← List.map_eq_nil_iff (f := Prod.fst), List.eq_nil_iff_forall_not_mem]
    intro reference hmem
    obtain ⟨d, hd, -, hself⟩ := mem_fst_references.1 hmem
    exact (hrests d hd).not_isSelf hself
  obtain ⟨fills, hfilled, hfills⟩ := hsweep.filled
  refine ⟨fills ++ (Batch.run env phase (Sweep.run env phase ds record s).queue (Sweep.run env phase ds record s).record
    (Sweep.run env phase ds record s).state).results, ?_, fun e he => ?_⟩
  · rw [resolvePass_eq_unlinked, hreferences, unlinked, Batch.run, Batch.foldl_record phase hordered.ours hspares,
      storeAll_append, ← hfilled]
    rfl
  · rcases List.mem_append.1 he with he | he
    · obtain ⟨hnone, d, hd, hname, hm, hdefault, hvalue⟩ := hfills e he
      exact ⟨hnone, d, hd, hname, hm, .inl ⟨hdefault, hvalue⟩⟩
    · obtain ⟨f, s', hqueued, hgiven⟩ := Batch.mem_results hordered.ours hspares he
      obtain ⟨hnone, d, hd, hname, hm, hdefault, hfallback⟩ := hsweep.waiting _ hqueued
      exact ⟨hnone, d, hd, hname, hm, .inr ⟨hdefault, f, s', hfallback, hgiven⟩⟩

/-! ## The completion of a request -/

namespace Lifecycle

variable {env : Surroundings} {w w' : World} {id : Nat} {p : Pipeline} {l : Lifecycle}

/-- The calls of a pass of a log, each with the record that the function got. -/
def calls (env : Surroundings) (id : Nat) (phase : Phase) (config : FieldConfig) (l : Lifecycle) (w : World) :
    List (FieldFunction × Record) :=
  (resolvePass (env.surface l.request l.response (some id)).traced phase (config.phase phase) l.record (w, [])).state.2

/-- The log as the pass of its arrival leaves it, once it waits for completion. -/
def arrived (env : Surroundings) (id : Nat) (config : FieldConfig) (l : Lifecycle) (w : World) : Lifecycle :=
  { l with record := (l.passed env id .pre config w).record, state := .awaitingCompletion }

/-- **What the arrival left is carried over the completion.** The log waits at its completion, in any state `w'`, with
the record that the pass of its arrival left in `w`, and the functions of the completion leave records alone. Then

- a name with a value whose fields all rest on completion keeps it: every function of the completion gets a record with
  that value, every reference to the name comes to it, and the record that is handed over holds it;
- where all fields rest on completion, the whole record is handed over as it came, but for mandatory fields that had no
  value and are filled in.

The last line says which record that is. -/
theorem complete_carriesOver
    (hspares : (env.surface l.request l.response (some id)).Spares (functionsOf p.config.post))
    (hl : w'.lifecycles.get? id = some (l.arrived env id p.config w)) (hp : w'.pipelines.get? l.pipeline = some p) :
    let waiting := l.arrived env id p.config w
    let final := (waiting.passed env id .post p.config w').record
    (∀ name v, waiting.record.get? name = some v → v ≠ .null →
      (∀ d ∈ p.config.post, d.name = name → d.Rests .post) →
        (∀ call ∈ waiting.calls env id .post p.config w', call.2.get? name = some v) ∧
          (∀ reference, RefersTo p.config.post reference name → final.get? reference = some v) ∧
          final.get? name = some v) ∧
    ((∀ d ∈ p.config.post, d.Rests .post) →
      ∃ fills, final = storeAll waiting.record fills ∧ ∀ e ∈ fills,
        Fills (env.surface l.request l.response (some id)) p.config.post waiting.record
          (Sweep.run (env.surface l.request l.response (some id)) .post p.config.post waiting.record w').record e) ∧
    due env id w' = handedOver env p final (waiting.resolved env id .post p w') := by
  refine ⟨fun name v hheld hv hrests => ?_, fun hrests => ?_, ?_⟩
  · exact resolvePass_holding .post hheld hv hrests hspares w'
  · exact resolvePass_of_rests .post hrests hspares _ w'
  · have hs : (l.arrived env id p.config w).state = .awaitingCompletion := rfl
    have hp' : w'.pipelines.get? (l.arrived env id p.config w).pipeline = some p := hp
    rw [due, hl]
    dsimp only
    rw [if_pos hs, hp']
    rfl

/-- Fields of a request: its layer is fixed on arrival, looked up and referred to on completion. -/
def layeredConfig : FieldConfig :=
  { pre := [⟨"layer", .fixed (.text "api"), false, .null, none⟩]
    post :=
      [⟨"copy", .self "layer", false, .null, none⟩,
        ⟨"layer", .fixed (.text "new"), true, .text "unknown", none⟩,
        ⟨"layer", .time (some (.script (.const (some (.text "late"))))) none, false, .null, none⟩,
        ⟨"seen", .time none (some (.script (.recorded "layer" none))), false, .null, none⟩,
        ⟨"kept", .special, false, .null, some (.script (.recorded "layer" none))⟩,
        ⟨"layer", .special, true, .null, none⟩] }

/-- Fields that rest on completion: `zone` gets its default, and `day` what its fallback gives. -/
def restingConfig : FieldConfig :=
  { layeredConfig with
    post :=
      [⟨"layer", .fixed (.text "new"), true, .text "unknown", none⟩,
        ⟨"zone", .special, true, .text "none", none⟩,
        ⟨"day", .time none none, true, .null, some (.script (.const (some (.text "Monday"))))⟩] }

/-- The log of a request as it is created. -/
def fresh : Lifecycle := ⟨0, ⟨0, .absent, none⟩, ⟨1, .absent, some .onEvent⟩, {}, .created⟩

/-- An application in which a request with such fields has arrived and waits. -/
def arrivedWith (config : FieldConfig) : World :=
  { hosts := ⟨[{}, {}]⟩
    cores := ⟨[.recording {}]⟩
    pipelines := ⟨[⟨0, config, .text "info"⟩]⟩
    lifecycles := ⟨[fresh.arrived Application.surroundings 0 config {}]⟩ }

/-- At these fields the layer of the arrival is seen everywhere; where all fields rest, only two are filled in. -/
theorem complete_carriesOver_layered :
    let env := Application.surroundings
    let surface := env.surface fresh.request fresh.response (some 0)
    (∀ config ∈ [layeredConfig, restingConfig], surface.Spares (functionsOf config.post) ∧
      (arrivedWith config).lifecycles.get? 0 = some (fresh.arrived env 0 config {}) ∧
      (arrivedWith config).pipelines.get? fresh.pipeline = some ⟨0, config, .text "info"⟩) ∧
    (let waiting := fresh.arrived env 0 layeredConfig {}
    let final := (waiting.passed env 0 .post layeredConfig (arrivedWith layeredConfig)).record
    waiting.record.get? "layer" = some (.text "api") ∧
      (waiting.calls env 0 .post layeredConfig (arrivedWith layeredConfig)).length = 2 ∧
      (∀ call ∈ waiting.calls env 0 .post layeredConfig (arrivedWith layeredConfig),
        call.2.get? "layer" = some (.text "api")) ∧
      final.get? "copy" = some (.text "api") ∧ final.get? "layer" = some (.text "api")) ∧
    ∃ fills, ((fresh.arrived env 0 restingConfig {}).passed env 0 .post restingConfig
        (arrivedWith restingConfig)).record =
      storeAll (fresh.arrived env 0 restingConfig {}).record fills ∧ "layer" ∉ fills.map Prod.fst := by
  have hlayered : (Application.surroundings.surface fresh.request fresh.response (some 0)).Spares
      (functionsOf layeredConfig.post) := by
    intro f hf record w
    simp only [show functionsOf layeredConfig.post =
      [.script (.const (some (.text "late"))), .script (.recorded "layer" none), .script (.recorded "layer" none)]
      from rfl, List.mem_cons, List.not_mem_nil, or_false] at hf
    rcases hf with rfl | rfl | rfl <;> rfl
  have hresting : (Application.surroundings.surface fresh.request fresh.response (some 0)).Spares
      (functionsOf restingConfig.post) := by
    intro f hf record w
    simp only [show functionsOf restingConfig.post = [.script (.const (some (.text "Monday")))] from rfl,
      List.mem_singleton] at hf
    rw [hf]
    rfl
  obtain ⟨hheld, -⟩ := @complete_carriesOver _ {} (arrivedWith layeredConfig) 0
    ⟨0, layeredConfig, .text "info"⟩ fresh hlayered rfl rfl
  obtain ⟨-, hfilled, -⟩ := @complete_carriesOver _ {} (arrivedWith restingConfig) 0
    ⟨0, restingConfig, .text "info"⟩ fresh hresting rfl rfl
  have hlayer : (fresh.arrived Application.surroundings 0 layeredConfig {}).record.get? "layer" =
      some (.text "api") := rfl
  have hlayers : ∀ d ∈ layeredConfig.post, d.name = "layer" → d.Rests .post := by
    intro d hd hname
    simp only [layeredConfig, List.mem_cons, List.not_mem_nil, or_false] at hd
    rcases hd with rfl | rfl | rfl | rfl | rfl | rfl <;> first
      | exact .inl rfl
      | exact .inr ⟨rfl, rfl⟩
      | exact absurd hname (by decide)
  have hrest : ∀ d ∈ restingConfig.post, d.Rests .post := by
    intro d hd
    simp only [restingConfig, List.mem_cons, List.not_mem_nil, or_false] at hd
    rcases hd with rfl | rfl | rfl <;> first
      | exact .inl rfl
      | exact .inr ⟨rfl, rfl⟩
  obtain ⟨hcalls, hcopy, hkept⟩ := hheld "layer" (.text "api") hlayer nofun hlayers
  obtain ⟨fills, hfills, honly⟩ := hfilled hrest
  have hspared : "layer" ∉ fills.map Prod.fst := by
    intro hmem
    obtain ⟨e, he, hname⟩ := List.mem_map.1 hmem
    have hnone := (honly e he).1
    rw [hname] at hnone
    cases hnone
  have hreference : RefersTo layeredConfig.post "copy" "layer" :=
    ⟨[], _, _, rfl, rfl, rfl, by rw [isAlias_iff]; decide⟩
  refine ⟨fun config hconfig => ?_, ⟨hlayer, rfl, hcalls, hcopy "copy" hreference, hkept⟩, fills, hfills, hspared⟩
  simp only [List.mem_cons, List.not_mem_nil, or_false] at hconfig
  rcases hconfig with rfl | rfl
  · exact ⟨hlayered, rfl, rfl⟩
  · exact ⟨hresting, rfl, rfl⟩

end Lifecycle

end ActivityLog
