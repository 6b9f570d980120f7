import ActivityLog.Proofs.Traffic.Overrides

/-!
# Each request as if it were alone

`Pipeline.alone` is what a pipeline makes of a request that is alone: the pre pass over an empty record, registering
with the response, the post pass. Nothing is stored on the request, and no core is asked for anything. With functions
that keep to their request this is what becomes of a request among others, too (`record_eq_alone`).

Between the passes the request is touched. So the two states in which a pass begins have the same request and response
before the pre pass (`SameHosts`), and before the post pass the same response and a request that is the same as far as
it is not touched (`AlikeHosts`). Either will do for the pass to make the same of the record
(`Surroundings.Secluded.simulates`).
-/

namespace ActivityLog

open Act OrderedMap

/-- The arrival of a request that is alone: how it and its response are seen, and its record so far. -/
def Pipeline.arriveAlone (env : Surroundings) (p : Pipeline) (id request response : Nat) :
    Act (Adapter × Adapter × Record) := do
  let request ← adapter request
  let response ← adapter response
  let pre := resolvePass (env.surface request response none) .pre p.config.pre {} (← get)
  set pre.state
  let _ ← onCompletion response (.lifecycle id)
  return (request, response, pre.record)

/-- What a pipeline makes of the record of a request that is alone. -/
def Pipeline.alone (env : Surroundings) (p : Pipeline) (id request response : Nat) : Act Record := do
  let (request, response, record) ← arriveAlone env p id request response
  let post := resolvePass (env.surface request response none) .post p.config.post record (← get)
  set post.state
  return post.record

variable {env : Surroundings} {fs : FieldFunction → Prop} {w w' : World} {q r : Nat} {α : Type} {x : Act α}

/-! ## Steps on one of the hosts -/

theorem SameHosts.of_request (h : SameHosts q r w w') (hne : q ≠ r) (hx : Local q x)
    (hk : Keeps (Still { hosts := [q] }) x) :
    (x.perform w).1 = (x.perform w').1 ∧ SameHosts q r (x.perform w).2 (x.perform w').2 := by
  obtain ⟨hresult, hrequest⟩ := hx w w' h.request
  refine ⟨hresult, hrequest, ?_⟩
  rw [(hk w).hosts r (by simpa using hne.symm), (hk w').hosts r (by simpa using hne.symm), h.response]

theorem SameHosts.of_response (h : SameHosts q r w w') (hne : q ≠ r) (hx : Local r x)
    (hk : Keeps (Still { hosts := [r] }) x) :
    (x.perform w).1 = (x.perform w').1 ∧ SameHosts q r (x.perform w).2 (x.perform w').2 := by
  obtain ⟨hresult, hresponse⟩ := hx w w' h.response
  refine ⟨hresult, ?_, hresponse⟩
  rw [(hk w).hosts q (by simpa using hne), (hk w').hosts q (by simpa using hne), h.request]

/-! ## Passes -/

/-- The host that the sources of a phase read from. -/
def Phase.host (request response : Nat) : Phase → Nat
  | .pre => request
  | .post => response

/-- A relation of states by their hosts, in which one of these is the same. -/
structure Fixes (S : World → World → Prop) (n : Nat) : Prop where
  host : ∀ s t, S s t → s.hosts.get? n = t.hosts.get? n
  set : ∀ s t h, S s t → S { s with hosts := s.hosts.set n h } { t with hosts := t.hosts.set n h }
  congr : ∀ s t s' t', s'.hosts = s.hosts → t'.hosts = t.hosts → S s t → S s' t'

theorem Fixes.hostOf {S : World → World → Prop} {n : Nat} (h : Fixes S n) (hs : S w w') : w.hostOf n = w'.hostOf n := by
  unfold World.hostOf
  rw [h.host w w' hs]

theorem SameHosts.fixes (q r : Nat) : Fixes (SameHosts q r) q where
  host _ _ hs := hs.request
  set s t h hs := by
    refine ⟨?_, ?_⟩
    · simp only [Table.get?_set, hs.request]
    · simp only [Table.get?_set, hs.request, hs.response]
  congr s t s' t' hs' ht' hs := ⟨by rw [hs', ht', hs.request], by rw [hs', ht', hs.response]⟩

theorem AlikeHosts.fixes (hne : q ≠ r) : Fixes (AlikeHosts q r) r where
  host _ _ hs := hs.response
  set s t h hs := by
    have hrequest := hs.request
    unfold World.untouched at hrequest
    refine ⟨?_, ?_⟩
    · simp only [World.untouched, Table.get?_set, if_neg hne, hrequest]
    · simp only [Table.get?_set, hs.response]
  congr s t s' t' hs' ht' hs := by
    have hrequest := hs.request
    unfold World.untouched at hrequest
    exact ⟨by unfold World.untouched; rw [hs', ht', hrequest], by rw [hs', ht', hs.response]⟩

/-- **In states in which the host is the same that is read** a pass reads and calls the same, whether the record is kept
in a log or not. -/
theorem Surroundings.Secluded.simulates {S : Nat → Nat → World → World → Prop} {a b : Adapter} {ds : List Descriptor}
    (h : env.Secluded fs) (phase : Phase) (hS : env.Reads fs S)
    (hfix : Fixes (S a.target b.target) (phase.host a.target b.target)) (hne : a.target ≠ b.target)
    (hds : ∀ f ∈ functionsOf ds, fs f) (id : Nat) :
    (env.surface a b none).Simulates (env.surface a b (some id)) (S a.target b.target) phase (functionsOf ds) where
  header name s t hs := by
    have hhost := hfix.hostOf hs
    cases phase <;>
      · simp only [Phase.host] at hhost hfix
        simp only [Surroundings.surface, hhost]
        exact ⟨trivial, hfix.set s t _ hs⟩
  field name s t hs := by
    have hhost := hfix.hostOf hs
    cases phase <;>
      · simp only [Phase.host] at hhost hfix
        simp only [Surroundings.surface, hhost]
        exact ⟨trivial, hfix.set s t _ hs⟩
  call f hf record s t hs := by
    have hrecorded : S a.target b.target s (t.withRecord id record) := hfix.congr s t s _ rfl rfl hs
    obtain ⟨hresult, hafter⟩ := hS _ _ hne none (some id) f (hds f hf) record _ _ hrecorded
    exact ⟨hresult, (h.record _ f (hds f hf) record _).trans (h.record _ f (hds f hf) record _).symm, hafter⟩
  heard s t hs := hfix.congr s t _ _ rfl rfl hs

/-! ## The two halves -/

namespace Pipeline

variable {p : Pipeline} {id pipeline : Nat} {a b : Adapter} {v v₁ : World}

theorem perform_alone {record : Record}
    (harrive : (arriveAlone env p id q r).perform v = (.ok (a, b, record), v₁)) :
    ((alone env p id q r).perform v).1 =
      .ok (resolvePass (env.surface a b none) .post p.config.post record v₁).record := by
  unfold alone
  rw [perform_bind_ok harrive]
  rfl

/-- A successful arrival at a pipeline with a structured core, which gives an empty record. -/
theorem start_begun (h : env.Secluded fs) (hw : w.Calls fs) (hp : w.pipelines.get? pipeline = some p)
    (ho : (w.overridesOf? p.core).isSome) (hstart : ((start env.watched pipeline q r).perform w).1 = .ok id) :
    ∃ a b w₁ w₂, (adapter q).perform w = (.ok a, w₁) ∧ (adapter r).perform w₁ = (.ok b, w₂) ∧
      a.target = q ∧ b.target = r ∧ (w₂.overridesOf? p.core).isSome ∧
      let l : Lifecycle := ⟨pipeline, a, b, {}, .created⟩
      let w₃ : World := { w₂ with lifecycles := w₂.lifecycles.add l }
      Begun env id p l w₃ ((start env.watched pipeline q r).perform w).2 ∧
        (q ≠ r → ∃ c, ((onCompletion b (.lifecycle id)).perform (l.resolved env id .pre p w₃)).1 = .ok c) := by
  have hadapter {n : Nat} (hn : n ∈ [q, r]) : Keeps (Still { hosts := [q, r] }) (adapter n) :=
    Still.adapter hn
  rcases start_cases (hadapter List.mem_cons_self) (hadapter (List.mem_cons_of_mem _ List.mem_cons_self)) env.watched
    pipeline w with ⟨⟨f, hf⟩, -⟩ | ⟨a, b, w₁, w₂, hr, hr', rfl, rfl, hkept, hbegin⟩
  · rw [hf] at hstart
    cases hstart
  rw [hbegin] at hstart ⊢
  have hp₂ : w₂.pipelines.get? pipeline = some p := by rw [hkept.pipelines, hp]
  have ho₂ : (w₂.overridesOf? p.core).isSome := by rwa [hkept.overrides _ (Option.some_ne_none _).symm]
  have hinit : (env.watched.core p.core).initLog.perform w₂ = (.ok {}, w₂) := by
    rw [h.core_watched]
    exact Standard.perform_initLog ho₂
  rw [perform_startWith hp₂ hinit] at hstart ⊢
  let l : Lifecycle := ⟨pipeline, a, b, {}, .created⟩
  let w₃ : World := { w₂ with lifecycles := w₂.lifecycles.add l }
  have hl : w₃.lifecycles.get? w₂.lifecycles.next = some l := by rw [Table.get?_add, if_pos rfl]
  have hw₃ : w₃.Calls fs := hkept.quiet.calls hw
  obtain ⟨hbegun, hregistered⟩ := begun (w := w₃) h hw₃ hl hp₂
  obtain ⟨rfl, -⟩ := (quiet_begin (w := w₃) h.discreet hw₃ w₂.lifecycles.next).2 id hstart
  exact ⟨a, b, w₁, w₂, hr, hr', rfl, rfl, ho₂, hbegun, fun hne => hregistered hne _ hstart⟩

/-- **Where a request waits among others it waits alone**, with the same record and with hosts alike. -/
theorem arriveAlone_of_start (h : env.Secluded fs) (hw : w.Calls fs) (hne : q ≠ r) (hsame : SameHosts q r v w)
    (hp : w.pipelines.get? pipeline = some p) (ho : (w.overridesOf? p.core).isSome)
    (hstart : ((start env.watched pipeline q r).perform w).1 = .ok id) :
    ∃ a b record v' state, (arriveAlone env p id q r).perform v = (.ok (a, b, record), v') ∧ a.target = q ∧
      b.target = r ∧ AlikeHosts q r v' ((start env.watched pipeline q r).perform w).2 ∧
      ((start env.watched pipeline q r).perform w).2.lifecycles.get? id = some ⟨pipeline, a, b, record, state⟩ := by
  obtain ⟨a, b, w₁, w₂, hr, hr', rfl, rfl, ho₂, hbegun, hregistered⟩ := start_begun h hw hp ho hstart
  obtain ⟨hrequest, hsame₁⟩ := hsame.of_request hne Local.adapter (Still.adapter (List.mem_singleton.2 rfl))
  rcases hv : (adapter a.target).perform v with ⟨result, v₁⟩
  rw [hv, hr] at hrequest hsame₁
  obtain ⟨hresponse, hsame₂⟩ := hsame₁.of_response hne Local.adapter (Still.adapter (List.mem_singleton.2 rfl))
  rcases hv' : (adapter b.target).perform v₁ with ⟨result', v₂⟩
  rw [hv', hr'] at hresponse hsame₂
  cases hrequest
  cases hresponse
  -- The pre pass begins with the same hosts, and leaves them the same.
  let l : Lifecycle := ⟨pipeline, a, b, {}, .created⟩
  let w₃ : World := { w₂ with lifecycles := w₂.lifecycles.add l }
  let pre := resolvePass (env.surface a b none) .pre p.config.pre {} v₂
  have hsame₃ : SameHosts a.target b.target v₂ w₃ := ⟨hsame₂.request, hsame₂.response⟩
  obtain ⟨hrecord, hstate⟩ :=
    (h.simulates .pre h.same (SameHosts.fixes _ _) hne (hw _ p hp .pre) id).resolvePass {} hsame₃
  have hresolved : SameHosts a.target b.target pre.state (l.resolved env id .pre p w₃) :=
    ⟨hstate.request, hstate.response⟩
  -- So registering with the response gives and leaves the same, too.
  have hstill : Keeps (Still { hosts := [b.target] }) (onCompletion b (.lifecycle id)) :=
    Still.onCompletion (List.mem_singleton.2 rfl) _
  obtain ⟨c, hc⟩ := hregistered hne
  obtain ⟨hresult, hafter⟩ := hresolved.of_response hne (Local.onCompletion rfl (.lifecycle id)) hstill
  have hkept := hstill pre.state
  rcases hv₃ : (onCompletion b (.lifecycle id)).perform pre.state with ⟨result, v₃⟩
  rw [hv₃] at hresult hafter hkept
  obtain rfl := hresult.trans hc
  have halike : v₃.untouched a.target = (l.resolved env id .pre p w₃).untouched a.target := by
    unfold World.untouched
    rw [hkept.hosts a.target (by simpa using hne), hresolved.request]
  have harrive : (arriveAlone env p id a.target b.target).perform v = (.ok (a, b, pre.record), v₃) := by
    unfold arriveAlone
    rw [perform_bind_ok hv, perform_bind_ok hv', perform_bind_ok (perform_get v₂),
      perform_bind_ok (perform_set pre.state v₂), perform_bind_ok hv₃]
    rfl
  obtain ⟨state, hlog⟩ := hbegun.log
  refine ⟨a, b, pre.record, v₃, state, harrive, rfl, rfl, ⟨?_, ?_⟩, ?_⟩
  · exact halike.trans (hbegun.request hne ho₂).symm
  · exact hafter.response.trans (hbegun.response hne).symm
  · exact hlog.trans (congrArg (fun record => some ({ l with record, state } : Lifecycle)) hrecord.symm)

end Pipeline

/-! ## Runs -/

/-- The hosts of all arrivals. -/
def hostsOf (es : List Event) : List Nat := es.flatMap Event.hosts

theorem Standard.writeStaticFields_eq {core : Nat} {overrides : Record} (h : w.overridesOf? core = some overrides)
    (record : Record) :
    (Standard.core core).writeStaticFields record w = (.ok (), record.insertAll overrides.entries, w) := by
  obtain ⟨c, hc, rfl⟩ := World.structured_of_overridesOf? h
  unfold Standard.core
  dsimp only
  rw [hc]
  rfl

/-- A structured core that is handed a record sends it with the overrides that are in force then. -/
theorem Lifecycle.handedOver_eq (hcore : env.core = Standard.core) {p : Pipeline} {overrides : Record}
    (ho : w.overridesOf? p.core = some overrides) (record : Record) :
    Lifecycle.handedOver env p record w =
      [.overriding record, .sending p.level (record.insertAll overrides.entries)] := by
  have hnoted : (w.noted (.overriding record)).overridesOf? p.core = some overrides := ho
  unfold Lifecycle.handedOver
  rw [hcore, Standard.writeStaticFields_eq hnoted]

/-- Events before and after an arrival spare its hosts. -/
theorem spares_of_nodup {before between : List Event} {pipeline : Nat}
    (h : (hostsOf (before ++ .start pipeline q r :: between)).Nodup) :
    q ≠ r ∧ ∀ e, e ∈ before ∨ e ∈ between → ∀ n ∈ e.hosts, n ∉ [q, r] := by
  have happ : hostsOf (before ++ .start pipeline q r :: between) = hostsOf before ++ ([q, r] ++ hostsOf between) := by
    simp [hostsOf, Event.hosts]
  rw [happ, List.nodup_append, List.nodup_append] at h
  obtain ⟨-, ⟨hqr, -, hafter⟩, hbefore⟩ := h
  refine ⟨by simpa using hqr, fun e he n hn hin => ?_⟩
  rcases he with he | he
  · exact hbefore n (List.mem_flatMap.2 ⟨e, he, hn⟩) n (List.mem_append_left _ hin) rfl
  · exact hafter n hin n (List.mem_flatMap.2 ⟨e, he, hn⟩) rfl

/-- After a successful arrival no log but the new one is of its hosts. -/
theorem apart_start (h : env.Secluded fs) (hw : w.Calls fs) {pipeline id : Nat} (hapart : w.Apart [q, r] none)
    (hstart : ((Pipeline.start env.watched pipeline q r).perform w).1 = .ok id) :
    ((Pipeline.start env.watched pipeline q r).perform w).2.Apart [q, r] (some id) := by
  have hconfined := (Pipeline.confined_start h hw pipeline q r).1
  obtain ⟨hnew, -, l, hl, -⟩ := (Pipeline.quiet_start h.discreet hw pipeline q r).2 id hstart
  have hid : w.lifecycles.next = id := by
    refine Decidable.byContradiction fun hother => ?_
    rw [hconfined.lifecycles id fun heq => hother (Option.some.inj heq), hnew] at hl
    cases hl
  intro n l' hn hl'
  rw [hconfined.lifecycles n fun heq => hn (heq ▸ congrArg some hid.symm)] at hl'
  exact hapart n l' (Option.some_ne_none _).symm hl'

/-- A log that is completed hands over what the post pass makes of its record when the request is alone, overlaid with
the overrides in force. -/
theorem Event.emissions_of_waiting (h : env.Secluded fs) (hw : w.Calls fs) {id : Nat} {l : Lifecycle} {p : Pipeline}
    (hl : w.lifecycles.get? id = some l) (hwaits : l.state = .awaitingCompletion)
    (hp : w.pipelines.get? l.pipeline = some p) (hne : l.request.target ≠ l.response.target) {v : World}
    (halike : AlikeHosts l.request.target l.response.target v w) {overrides : Record}
    (ho : w.overridesOf? p.core = some overrides) (arguments : List Value) :
    let record := (resolvePass (env.surface l.request l.response none) .post p.config.post l.record v).record
    ((Event.completion id arguments).step env.watched w).emissions =
      w.emissions ++ [.overriding record, .sending p.level (record.insertAll overrides.entries)] := by
  intro record
  obtain ⟨-, hnotes, -⟩ := Event.step_of_waiting h.discreet hw hl hwaits hp arguments
  have hrecord : (l.passed env id .post p.config w).record = record :=
    ((h.simulates .post h.alike (AlikeHosts.fixes hne) hne (hw _ p hp .post) id).resolvePass l.record halike).1.symm
  have hresolved : (l.resolved env id .post p w).overridesOf? p.core = some overrides := by
    rw [(h.resolved .post hw hl hp).1.overrides p.core (Option.some_ne_none _).symm, ho]
  rw [hnotes, Lifecycle.attempt, Lifecycle.handedOver_eq h.core hresolved, hrecord]

section Interleaved

variable {w₀ : World} {pipeline id : Nat} {p : Pipeline} {initial : Record} {before between : List Event}

/-- A request that has arrived waits, whatever happens to others: with the record that it has alone, and with hosts
alike. -/
theorem run_awaits (h : env.Secluded fs) (hw : w₀.Calls fs) (hp : w₀.pipelines.get? pipeline = some p)
    (ho : (w₀.overridesOf? p.core).isSome) (hdistinct : (hostsOf (before ++ .start pipeline q r :: between)).Nodup)
    (hold : w₀.Apart [q, r] none)
    (hstart : ((Pipeline.start env.watched pipeline q r).perform (run env.watched before w₀)).1 = .ok id)
    (hbetween : ∀ e ∈ between, e.completed? ≠ some id) :
    let w := run env.watched (before ++ .start pipeline q r :: between) w₀
    ∃ a b record v, (Pipeline.arriveAlone env p id q r).perform w₀ = (.ok (a, b, record), v) ∧ a.target = q ∧
      b.target = r ∧ AlikeHosts q r v w ∧
      w.lifecycles.get? id = some ⟨pipeline, a, b, record, .awaitingCompletion⟩ := by
  intro w
  obtain ⟨hne, hspares⟩ := spares_of_nodup hdistinct
  -- Up to the arrival its hosts stay as they are, and no log is of them.
  have hspared₁ : ∀ e ∈ before, e.Spares [q, r] none := fun e he => ⟨hspares e (.inl he), fun _ hid => by cases hid⟩
  obtain ⟨hkept₁, hapart₁⟩ := run_apart h hw hspared₁ hold fun _ hid => by cases hid
  have hcalls₁ := (run_pipelines h.discreet hw before).1
  have hp₁ : (run env.watched before w₀).pipelines.get? pipeline = some p := by rw [hkept₁.pipelines, hp]
  obtain ⟨overrides, ho⟩ := Option.isSome_iff_exists.1 ho
  have ho₁ : ((run env.watched before w₀).overridesOf? p.core).isSome := by
    rw [run_overrides h hw before ho]
    rfl
  have hsame : SameHosts q r w₀ (run env.watched before w₀) :=
    ⟨(hkept₁.hosts q (by simp)).symm, (hkept₁.hosts r (by simp)).symm⟩
  have hrun : w = run env.watched between
      ((Event.start pipeline q r).step env.watched (run env.watched before w₀)) := run_append before _ w₀
  clear_value w
  subst hrun
  generalize run env.watched before w₀ = w₁ at hstart hapart₁ hcalls₁ hp₁ ho₁ hsame ⊢
  -- The arrival leaves what it leaves when the request is alone.
  obtain ⟨a, b, record, v, state, harrive, ha, hb, halike, hlog⟩ :=
    Pipeline.arriveAlone_of_start h hcalls₁ hne hsame hp₁ ho₁ hstart
  obtain ⟨hquiet, hreturned⟩ := Pipeline.quiet_start h.discreet hcalls₁ pipeline q r
  obtain ⟨-, -, l, hl, hwaits, -⟩ := hreturned id hstart
  obtain rfl := Option.some.inj (hlog.symm.trans hl)
  obtain rfl : state = .awaitingCompletion := hwaits
  have hcalls₂ : ((Event.start pipeline q r).step env.watched w₁).Calls fs := hquiet.calls hcalls₁
  have hapart₂ : ((Event.start pipeline q r).step env.watched w₁).Apart [q, r] (some id) :=
    apart_start h hcalls₁ hapart₁ hstart
  -- From the arrival on its hosts and its log stay as they are.
  have hspared₂ : ∀ e ∈ between, e.Spares [q, r] (some id) := fun e he =>
    ⟨hspares e (.inr he), fun _ hid => Option.some.inj hid ▸ hbetween e he⟩
  obtain ⟨hkept₂, -⟩ := run_apart h hcalls₂ hspared₂ hapart₂ fun _ hid => by
    rw [← Option.some.inj hid]
    exact Option.isSome_of_eq_some hlog
  refine ⟨a, b, record, v, harrive, ha, hb, ⟨halike.request.trans ?_, ?_⟩, (hkept₂.log id rfl).trans hlog⟩
  · unfold World.untouched
    rw [hkept₂.hosts q (by simp)]
    rfl
  · exact halike.response.trans (hkept₂.hosts r (by simp)).symm

/-- **Requests do not interfere.** Let functions keep to their request, let no two arrivals share a host, and let the
pipeline's core be a structured one. Whatever happened before a request arrives and whatever happens until it is
completed, as arrivals and completions of others, overrides, changes of levels and patterns, and messages: on its
completion the core is handed the record that the request has alone, and sends it overlaid with the overrides in force.

- Nothing depends on whether the record and the core's helpers could be put on the request: alone they are not.
- In force of a name is the last value that was given for it, unless that was absent.
- Whoever gives one is answered whether there is one in force from then on. -/
theorem record_eq_alone (h : env.Secluded fs) (hw : w₀.Calls fs) (hp : w₀.pipelines.get? pipeline = some p)
    (ho : w₀.overridesOf? p.core = some initial) (hwf : initial.WellFormed)
    (hdistinct : (hostsOf (before ++ .start pipeline q r :: between)).Nodup) (hold : w₀.Apart [q, r] none)
    (hstart : ((Pipeline.start env.watched pipeline q r).perform (run env.watched before w₀)).1 = .ok id)
    (hbetween : ∀ e ∈ between, e.completed? ≠ some id) (arguments : List Value) :
    let es := before ++ .start pipeline q r :: between
    let w := run env.watched es w₀
    ∃ record sent, ((Pipeline.alone env p id q r).perform w₀).1 = .ok record ∧
      ((Event.completion id arguments).step env.watched w).emissions =
        w.emissions ++ [.overriding record, .sending p.level sent] ∧
      sent = record.insertAll (overridesAfter p.core initial es).entries ∧
      (∀ name, sent.get? name = (inForce? p.core initial es name).or (record.get? name)) ∧
      ∀ es' name value, (((env.core p.core).overrideField name value).perform (run env.watched es' w₀)).1 =
        .ok (inForce? p.core initial (es' ++ [.override p.core name value]) name).isSome := by
  intro es w
  obtain ⟨a, b, record, v, harrive, rfl, rfl, halike, hlog⟩ :=
    run_awaits h hw hp (Option.isSome_of_eq_some ho) hdistinct hold hstart hbetween
  have hne := (spares_of_nodup hdistinct).1
  obtain ⟨hcalls, hpipelines⟩ := run_pipelines h.discreet hw es
  have how := run_overrides h hw es ho
  have hnotes := Event.emissions_of_waiting h hcalls hlog rfl (hpipelines _ p hp) hne halike how arguments
  refine ⟨_, _, Pipeline.perform_alone harrive, hnotes, rfl, fun name => ?_, fun es' name value => ?_⟩
  · rw [get?_insertAll_entries (wellFormed_overridesAfter hwf es), get?_overridesAfter]
  · exact overrideField_answer h hw es' ho name value

end Interleaved

/-- A pipeline that notes the method of a request and the status of its response. -/
def methodAndStatus : Pipeline :=
  { core := 0
    config := {
      pre := [⟨"method", .special, true, .null, some (.script (.ofRequest "method"))⟩]
      post := [⟨"status", .field "status", true, .null, none⟩] }
    level := .text "info" }

/-- An application with that pipeline over a structured core, and four dictionaries for hosts. -/
def rush : World :=
  let message (name value : String) : Host :=
    { nature := .dict, items := ⟨[("headers", .dict []), (name, .text value)]⟩ }
  { hosts := ⟨[message "method" "GET", message "status" "200", message "method" "PUT", message "status" "404"]⟩
    cores := ⟨[.structured { config := methodAndStatus.config }]⟩
    pipelines := ⟨[methodAndStatus]⟩ }

/-- While one request waits, another one comes and goes, and fields are overridden, one of them for a while only. -/
theorem record_eq_alone_rush :
    let between : List Event := [.start 0 2 3, .override 0 "layer" (.text "edge"), .override 0 "status" (.int 0),
      .completion 1 [], .override 0 "status" .null]
    let w := run Application.surroundings.watched (.start 0 0 1 :: between) rush
    Application.surroundings.Secluded FieldFunction.IsReader ∧ rush.Calls FieldFunction.IsReader ∧
      ((Pipeline.start Application.surroundings.watched 0 0 1).perform rush).1 = .ok 0 ∧
      ∃ record sent, ((Event.completion 0 []).step Application.surroundings.watched w).emissions =
          w.emissions ++ [.overriding record, .sending (.text "info") sent] ∧
        record.entries = [("method", .text "GET"), ("status", .text "200")] ∧
        sent.get? "layer" = some (.text "edge") ∧ sent.get? "status" = some (.text "200") := by
  intro between w
  have hcalls : rush.Calls FieldFunction.IsReader := by
    rintro n p hp phase f hf
    cases n with
    | succ n => cases hp
    | zero =>
      cases hp
      cases phase with
      | pre => exact ⟨_, List.mem_singleton.1 hf, rfl⟩
      | post => exact absurd hf List.not_mem_nil
  have hstart : ((Pipeline.start Application.surroundings.watched 0 0 1).perform rush).1 = .ok 0 := rfl
  have hp : rush.pipelines.get? 0 = some methodAndStatus := rfl
  have ho : rush.overridesOf? 0 = some {} := rfl
  have hdistinct : (hostsOf ([] ++ .start 0 0 1 :: between)).Nodup := by decide
  have hold : rush.Apart [0, 1] none := fun n l _ hl => by cases hl
  have hbetween : ∀ e ∈ between, e.completed? ≠ some 0 := by decide
  obtain ⟨record, sent, halone, hnotes, -, hsent, -⟩ := record_eq_alone Application.secluded hcalls hp ho
    wellFormed_empty hdistinct hold hstart hbetween []
  have hrecord : record.entries = [("method", .text "GET"), ("status", .text "200")] := by
    have hvalue : ((Pipeline.alone Application.surroundings methodAndStatus 0 0 1).perform rush).1.map (·.entries) =
        .ok [("method", .text "GET"), ("status", .text "200")] := rfl
    rw [halone] at hvalue
    exact Except.ok.inj hvalue
  have hlayer : sent.get? "layer" = some (.text "edge") := hsent "layer"
  have hstatus : sent.get? "status" = some (.text "200") := by
    rw [hsent, get?, hrecord]
    rfl
  rw [List.nil_append] at hnotes
  exact ⟨Application.secluded, hcalls, hstart, record, sent, hnotes, hrecord, hlayer, hstatus⟩

end ActivityLog
