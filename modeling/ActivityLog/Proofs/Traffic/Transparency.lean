import ActivityLog.Proofs.Traffic

/-!
# What comes next

A pipeline logs the arrival of a request and then lets come what comes next: downstream code, the response, and
sometime its completion.

- Whatever the arrival does or fails with, it ends, and what comes next is performed once and from there
  (`Pipeline.perform_handle`). What that gives or fails with is all that there is.
- An arrival has its log as soon as both hosts are seen through adapters and the core gives a record
  (`Pipeline.opened`). From there on only registering with the response can keep the log from waiting
  (`Pipeline.perform_begin_of_registered`): neither the pass nor storing the record nor the core's helpers.
- `Pipeline.handle_transparent` puts the two together: once registered, a log has its record handed over when it is
  completed.
-/

namespace ActivityLog

open Act

variable {env : Surroundings} {fs : FieldFunction → Prop} {w w₁ : World} {id : Nat} {l : Lifecycle} {p : Pipeline}

/-! ## Who is told of a completion -/

/-- Who is told when the response that a host stands for is complete: who has registered for the event or for any, and
who waits with a stand-in. -/
def Host.told (h : Host) : List Listener :=
  h.callbacks "finish" ++ match h.nature with
    | .handle stand => stand.listeners
    | _ => []

/-- With a way to register that does not fail a listener is told of the completion. -/
theorem Act.onCompletion_told {a : Adapter} {listener : Listener} (ha : a.supportsCompletion = true)
    (hf : ∀ f, ((onCompletion a listener).perform w).1 ≠ .error f) :
    ((onCompletion a listener).perform w).1 = .ok true ∧
      ∃ h, ((onCompletion a listener).perform w).2.hosts.get? a.target = some h ∧ listener ∈ h.told := by
  have hput {h h' : Host} (hh : w.hosts.get? a.target = some h) (hl : listener ∈ h'.told) :
      ((do setHost a.target h'; return true : Act Bool).perform w).1 = .ok true ∧
        ∃ h, ((do setHost a.target h'; return true : Act Bool).perform w).2.hosts.get? a.target = some h ∧
          listener ∈ h.told := ⟨rfl, h', Table.get?_set_self hh h', hl⟩
  unfold onCompletion at hf ⊢
  split at hf
  · next hnone =>
    rw [Adapter.supportsCompletion, hnone] at ha
    cases ha
  · next f _ => exact absurd rfl (hf f)
  · cases hh : w.hosts.get? a.target with
    | none =>
      obtain ⟨f, hnone⟩ := perform_host_none hh
      rw [perform_bind_error hnone] at hf
      exact absurd rfl (hf f)
    | some h =>
      rw [perform_bind_ok (perform_host hh)] at hf ⊢
      dsimp only at hf ⊢
      split at hf
      · split at hf
        · exact absurd rfl (hf _)
        · exact hput hh (by simp [Host.told, Handle.register])
      · exact hput hh (by simp [Host.told, Host.callbacks])
      · exact hput hh (by simp [Host.told, Host.callbacks])

namespace Pipeline

/-! ## Handling a request -/

/-- **What comes next is performed once, from where the arrival ends.** -/
theorem perform_handle {α : Type} (env : Surroundings) (pipeline request response : Nat) (next : Act α) (w : World) :
    (handle env pipeline request response next).perform w =
      next.perform ((start env pipeline request response).after .startFailed w) := by
  unfold handle after
  rcases hr : (start env pipeline request response).perform w with ⟨f | n, w'⟩
  all_goals
    have hout := perform_outcome (start env pipeline request response) w
    rw [hr] at hout
    rw [perform_bind_ok hout]
  rfl

/-! ## From the log to its completion -/

/-- An arrival up to the creation of its log: both hosts are seen through adapters, and the core gives a record. -/
def opened (env : Surroundings) (pipeline request response : Nat) : Act Nat := do
  let request ← Act.adapter request
  let response ← Act.adapter response
  let p ← Act.pipeline pipeline
  let record ← (env.core p.core).initLog
  Act.addLifecycle ⟨pipeline, request, response, record, .created⟩

/-- An arrival goes on from the creation of its log. -/
theorem start_eq (env : Surroundings) (pipeline request response : Nat) :
    start env pipeline request response = opened env pipeline request response >>= begin env := by
  unfold start opened
  simp only [bind_assoc]
  rfl

/-- What an arrival does until its log is there. -/
theorem keeps_opened {R : World → World → Prop} [IsPreorder World R]
    (host : ∀ id w h, R w { w with hosts := w.hosts.set id h })
    (addLog : ∀ w l, R w { w with lifecycles := w.lifecycles.add l }) (hinit : ∀ c, Keeps R (env.core c).initLog)
    (pipeline q r : Nat) : Keeps R (opened env.watched pipeline q r) := by
  refine Keeps.bind (Keeps.adapter (host q)) fun a => ?_
  refine Keeps.bind (Keeps.adapter (host r)) fun b => ?_
  refine Keeps.bind (Keeps.pipeline pipeline) fun p => ?_
  exact Keeps.bind (hinit p.core) fun record => fun w => addLog w _

/-- Opening a log is quiet. -/
theorem quiet_opened (h : env.Discreet fs) (pipeline q r : Nat) :
    Keeps (Quiet fs none) (opened env.watched pipeline q r) :=
  keeps_opened (fun _ => Quiet.host) (fun _ l => ⟨Steady.addLifecycle l, rfl⟩) h.initLog pipeline q r

/-- A log that has been opened is there, and has the pipeline. -/
theorem get?_opened {pipeline q r : Nat} (h : (opened env pipeline q r).perform w = (.ok id, w₁)) :
    ∃ l, w₁.lifecycles.get? id = some l ∧ l.pipeline = pipeline := by
  obtain ⟨a, _, -, h⟩ := of_perform_bind_eq h
  obtain ⟨b, _, -, h⟩ := of_perform_bind_eq h
  obtain ⟨p, _, -, h⟩ := of_perform_bind_eq h
  obtain ⟨record, v, -, h⟩ := of_perform_bind_eq h
  have hadd : (addLifecycle ⟨pipeline, a, b, record, .created⟩).perform v = (.ok v.lifecycles.next,
      { v with lifecycles := v.lifecycles.add ⟨pipeline, a, b, record, .created⟩ }) := rfl
  obtain ⟨hid, rfl⟩ := Prod.mk.inj (hadd.symm.trans h)
  obtain rfl := Except.ok.inj hid
  exact ⟨_, (Table.get?_add _ _ _).trans (if_pos rfl), rfl⟩

/-- Opening a log is quiet, and the log is that of the hosts. -/
theorem of_perform_opened (h : env.Discreet fs) (hw : w.Calls fs) {pipeline request response : Nat}
    (hopened : (opened env.watched pipeline request response).perform w = (.ok id, w₁))
    (hl : w₁.lifecycles.get? id = some l) :
    w₁.Calls fs ∧ (∃ p, w₁.pipelines.get? l.pipeline = some p) ∧
      l.pipeline = pipeline ∧ l.request.target = request ∧ l.response.target = response := by
  have hadapter (n : Nat) : Keeps (Quiet fs none) (adapter n) := Keeps.adapter Quiet.host
  obtain ⟨a, v, ha, hopened⟩ := of_perform_bind_eq hopened
  obtain ⟨b, v', hb, hopened⟩ := of_perform_bind_eq hopened
  have hquiet : Quiet fs none w v' := by
    have hfirst := hadapter request w
    have hsecond := hadapter response v
    rw [ha] at hfirst
    rw [hb] at hsecond
    exact trans_of (Quiet fs none) hfirst hsecond
  cases hp : v'.pipelines.get? pipeline with
  | none =>
    obtain ⟨f, hf⟩ := perform_pipeline_none hp
    rw [perform_bind_error hf] at hopened
    cases hopened
  | some p =>
    rw [perform_bind_ok (perform_pipeline hp)] at hopened
    obtain ⟨record, v'', hr, hopened⟩ := of_perform_bind_eq hopened
    have hinit : Quiet fs none v' v'' := by
      have hkept := h.initLog p.core v'
      have hwatched : ((env.core p.core).initLog).perform v' = (.ok record, v'') := hr
      rwa [hwatched] at hkept
    have hadd : (addLifecycle ⟨pipeline, a, b, record, .created⟩).perform v'' = (.ok v''.lifecycles.next,
        { v'' with lifecycles := v''.lifecycles.add ⟨pipeline, a, b, record, .created⟩ }) := rfl
    obtain ⟨hid, rfl⟩ := Prod.mk.inj (hadd.symm.trans hopened)
    obtain rfl := Except.ok.inj hid
    rw [Table.get?_add, if_pos rfl] at hl
    obtain rfl := Option.some.inj hl
    exact ⟨(trans_of (Quiet fs none) hquiet hinit).calls hw, ⟨p, hinit.pipelines _ _ hp⟩, rfl,
      adapter_target (by rw [ha]), adapter_target (by rw [hb])⟩

/-- An arrival leaves its log behind with its fields resolved, whether the request takes the record or not and whatever
the core's helpers do. Its record is that of the pass unless these change it. -/
theorem get?_arrive (h : env.Discreet fs) (hw : w.Calls fs) (hl : w.lifecycles.get? id = some l)
    (hp : w.pipelines.get? l.pipeline = some p) :
    ∃ record, ((arrive env.watched id).perform w).2.lifecycles.get? id = some { l with record, state := .preResolved } ∧
      ((∀ v, (((env.core p.core).bindLogFunctions l.request.target).perform v).2.recordOf id = v.recordOf id) →
        record = (l.passed env id .pre p.config w).record) := by
  have hpass : Quiet fs (some id) w (l.resolved env.watched id .pre p w) := Lifecycle.quiet_resolved h hw hl hp
  have hrow : (l.resolved env.watched id .pre p w).lifecycles.get? id =
      some { l with record := (l.passed env id .pre p.config w).record, state := .preResolved } := by
    obtain ⟨_, _, hkept, -⟩ := (h.afterPass (hw _ p hp .pre) l w : Quiet fs (some id) w _).lifecycles id l hl
    exact Table.get?_set_self hkept _
  have hp₁ := hpass.pipelines _ _ hp
  unfold arrive
  rw [perform_bind_ok (Lifecycle.perform_resolvePre hl hp), perform_bind_ok (perform_lifecycle hrow)]
  generalize l.resolved env.watched id .pre p w = w₁ at hrow hp₁
  have hstore : Still { hosts := [l.request.target] } w₁
      ((writeField l.request.target recordField (.shared (.record id) false)).perform w₁).2 :=
    Still.writeField (List.mem_singleton.2 rfl) _ _ w₁
  rcases hr : (writeField l.request.target recordField (.shared (.record id) false)).perform w₁ with ⟨f | u, w₂⟩ <;>
    rw [hr] at hstore
  · rw [perform_bind_error hr]
    exact ⟨_, (hstore.logs id).trans hrow, fun _ => rfl⟩
  · have hrow₂ := (hstore.logs id).trans hrow
    have hp₂ : w₂.pipelines.get? l.pipeline = some p := by rw [hstore.pipelines, hp₁]
    rw [perform_bind_ok hr, perform_bind_ok (perform_pipeline hp₂)]
    obtain ⟨record, state, hrow₃, hs⟩ := (h.bindLogFunctions p.core l.request.target w₂).lifecycles id _ hrow₂
    obtain rfl := hs (Option.some_ne_none _).symm
    refine ⟨record, hrow₃, fun hbind => ?_⟩
    have hkept := hbind w₂
    simp only [World.recordOf, hrow₂, hrow₃] at hkept
    exact hkept

/-- **Once its listener is registered a log waits**, whatever failed in its arrival. -/
theorem perform_begin_of_registered {v : World} (hafter : (arrive env id).after .preResolutionFailed w = v)
    (hl : v.lifecycles.get? id = some l) (ha : l.response.supportsCompletion = true)
    (hf : ∀ f, ((onCompletion l.response (.lifecycle id)).perform v).1 ≠ .error f) :
    ((begin env id).perform w).1 = .ok id ∧
      ((begin env id).perform w).2.lifecycles.get? id = some { l with state := .awaitingCompletion } ∧
      ∃ h, ((begin env id).perform w).2.hosts.get? l.response.target = some h ∧ .lifecycle id ∈ h.told := by
  obtain ⟨hregistered, htold⟩ := onCompletion_told ha hf
  have hstill : Still { hosts := [l.response.target] } v ((onCompletion l.response (.lifecycle id)).perform v).2 :=
    Still.onCompletion (List.mem_singleton.2 rfl) _ v
  have hrow := (hstill.logs id).trans hl
  rw [perform_begin, hafter]
  unfold Lifecycle.awaitCompletion
  rw [bind_assoc, perform_bind_ok (perform_lifecycle hl), bind_assoc, perform_bind_ok (Prod.ext hregistered rfl),
    bind_assoc, perform_bind_ok (perform_lifecycle hrow)]
  exact ⟨rfl, Table.get?_set_self hrow _, htold⟩

/-! ## Transparency -/

/-- **Logging stays out of the way, and its own failures do not keep it from logging.**

- What comes next is performed once, from where the arrival ends, whatever the arrival does or fails with; what it gives
  or fails with is all that there is.
- Let the log be opened, and let the response offer completion and take the listener without failing. Then the log
  waits and its listener is told of the completion, even if the request did not take the record or the core's helpers
  failed. It has the record of the pass, unless these helpers changed it. And whatever happens up to its first
  completion, that is an attempt to hand over what the fields of completion make of its record (`attempt`). -/
theorem handle_transparent (env : Surroundings) (w : World) (pipeline request response : Nat) :
    (∀ (α : Type) (next : Act α), (handle env pipeline request response next).perform w =
      next.perform ((start env pipeline request response).after .startFailed w)) ∧
    ∀ fs, env.Discreet fs → w.Calls fs → ∀ id w₁ l,
      (opened env.watched pipeline request response).perform w = (.ok id, w₁) → w₁.lifecycles.get? id = some l →
      l.response.supportsCompletion = true →
      (∀ f, ((onCompletion l.response (.lifecycle id)).perform
        ((arrive env.watched id).after .preResolutionFailed w₁)).1 ≠ .error f) →
      let w₂ := (start env.watched pipeline request response).after .startFailed w
      ∃ p record, w₂.pipelines.get? pipeline = some p ∧
        w₂.lifecycles.get? id = some { l with record, state := .awaitingCompletion } ∧
        ((∀ v, (((env.core p.core).bindLogFunctions request).perform v).2.recordOf id = v.recordOf id) →
          record = (l.passed env id .pre p.config w₁).record) ∧
        (∃ h, w₂.hosts.get? response = some h ∧ .lifecycle id ∈ h.told) ∧
        ∀ es, (∀ e ∈ es, e.completed? ≠ some id) → ∀ arguments,
          let w₃ := run env.watched es w₂
          ∃ l, w₃.lifecycles.get? id = some l ∧ l.state = .awaitingCompletion ∧
            ((Event.completion id arguments).step env.watched w₃).emissions =
              w₃.emissions ++ l.attempt env id p w₃ := by
  refine ⟨fun α next => perform_handle env pipeline request response next w, ?_⟩
  intro fs h hw id w₁ l hopened hl ha hf w₂
  obtain ⟨hw₁, ⟨p, hp⟩, rfl, rfl, rfl⟩ := of_perform_opened h hw hopened hl
  obtain ⟨record, hrow, hrecord⟩ := get?_arrive h hw₁ hl hp
  have hquiet := (quiet_begin h hw₁ id).1
  obtain ⟨ds, hafter⟩ := (arrive env.watched id).after_eq .preResolutionFailed w₁
  rw [hafter] at hf
  obtain ⟨hreturned, hwaits, htold⟩ := perform_begin_of_registered hafter
    (l := { l with record, state := .preResolved }) hrow ha hf
  have hw₂ : w₂ = ((begin env.watched id).perform w₁).2 := by
    have hstart : (start env.watched l.pipeline l.request.target l.response.target).perform w =
        (.ok id, ((begin env.watched id).perform w₁).2) := by
      rw [start_eq, perform_bind_ok hopened]
      exact Prod.ext hreturned rfl
    show Act.after _ _ _ = _
    rw [Act.after, hstart]
  rw [← hw₂] at hquiet hwaits htold
  clear_value w₂
  have hcalls := hquiet.calls hw₁
  refine ⟨p, record, hquiet.pipelines _ _ hp, hwaits, hrecord, htold, fun es hes arguments => ?_⟩
  obtain ⟨record', hwaits'⟩ := run_steady h hcalls hes hwaits
  obtain ⟨hcalls', hpipelines⟩ := run_pipelines h hcalls es
  obtain ⟨-, hnotes, -⟩ :=
    Event.step_of_waiting h hcalls' hwaits' rfl (hpipelines _ _ (hquiet.pipelines _ _ hp)) arguments
  exact ⟨_, hwaits', rfl, hnotes⟩

/-- An application whose core's helpers fail. The request does not take what is stored on it; the response tells of its
completion. -/
def unstored : World :=
  let status : Descriptor := ⟨"status", .special, true, .null, some (.script (.const (some (.int 500))))⟩
  let message : Host := { nature := .dict, items := ⟨[("headers", .dict [])]⟩ }
  { hosts := ⟨[{ message with itemFault := some (.fault .value "full") },
      { message with attributes := ⟨[("on", .subscribe true)]⟩ }]⟩
    cores := ⟨[.recording { failures := ⟨[("bind_log_functions", .fault .runtime "down")]⟩ }]⟩
    pipelines := ⟨[⟨0, { pre := [status] }, .text "info"⟩]⟩ }

/-- A log waits and is handed over though its record could not be stored. -/
theorem handle_transparent_unstored :
    let env := Application.surroundings
    let w₁ := ((opened env.watched 0 0 1).perform unstored).2
    let w₂ := (start env.watched 0 0 1).after .startFailed unstored
    env.Discreet FieldFunction.IsScript ∧ unstored.Calls FieldFunction.IsScript ∧
    ((opened env.watched 0 0 1).perform unstored).1 = .ok 0 ∧
    ((arrive env.watched 0).perform w₁).1 = .error (.fault .value "full") ∧
    ∃ l p, w₂.lifecycles.get? 0 = some l ∧ l.state = .awaitingCompletion ∧
      ((Event.completion 0 []).step env.watched w₂).emissions = w₂.emissions ++ l.attempt env 0 p w₂ := by
  intro env w₁ w₂
  have hcalls : unstored.Calls FieldFunction.IsScript := by
    rintro n p hp phase f hf
    cases n with
    | succ n => cases hp
    | zero =>
      cases hp
      cases phase with
      | pre => exact ⟨_, List.mem_singleton.1 hf⟩
      | post => exact absurd hf List.not_mem_nil
  have hopened : (opened env.watched 0 0 1).perform unstored = (.ok 0, w₁) := rfl
  have hregistered : ((onCompletion ⟨1, .table [], some .onEvent⟩ (.lifecycle 0)).perform
      ((arrive env.watched 0).after .preResolutionFailed w₁)).1 = .ok true := rfl
  obtain ⟨-, hlogged⟩ := handle_transparent env unstored 0 0 1
  obtain ⟨p, -, -, -, -, -, hlater⟩ := hlogged _ Application.discreet hcalls 0 w₁
    ⟨0, ⟨0, .table [], none⟩, ⟨1, .table [], some .onEvent⟩, {}, .created⟩ hopened rfl rfl
    (fun f hf => by rw [hregistered] at hf; cases hf)
  obtain ⟨l, hl, hs, hnotes⟩ := hlater [] (fun _ he => absurd he List.not_mem_nil) []
  exact ⟨Application.discreet, hcalls, rfl, rfl, l, p, hl, hs, hnotes⟩

end Pipeline

end ActivityLog
