import ActivityLog.Proofs.Lifecycle.Emission

/-!
# The arrival of a request

With hooks that leave logs alone an arrival is quiet: the logs that were there keep their states, and no record is
handed over. If it returns a log, that one is new and waits for completion (`quiet_start`).
-/

namespace ActivityLog

open Act

variable {env : Surroundings} {fs : FieldFunction → Prop} {busy : Option Nat} {w w' : World} {id : Nat}

/-! ## Passes of a log -/

namespace Lifecycle

/-- The pass of a phase over a log's record. -/
def passed (env : Surroundings) (id : Nat) (phase : Phase) (config : FieldConfig) (l : Lifecycle) (w : World) :
    PassResult World :=
  resolvePass (env.surface l.request l.response (some id)) phase (config.phase phase) l.record w

/-- The state that the pass leaves behind, with what it has to say. -/
def afterPass (env : Surroundings) (id : Nat) (phase : Phase) (config : FieldConfig) (l : Lifecycle) (w : World) :
    World :=
  { (l.passed env id phase config w).state with
    diagnostics := (l.passed env id phase config w).state.diagnostics ++ (l.passed env id phase config w).notes }

/-- The state of a log whose pass of a phase is through. -/
def resolvedState : Phase → LifecycleState
  | .pre => .preResolved
  | .post => .postResolved

/-- The state in which the pass of a phase is through and the log has its record. -/
def resolved (env : Surroundings) (id : Nat) (phase : Phase) (p : Pipeline) (l : Lifecycle) (w : World) : World :=
  let w' := l.afterPass env id phase p.config w
  let l' := { l with record := (l.passed env id phase p.config w).record, state := resolvedState phase }
  { w' with lifecycles := w'.lifecycles.set id l' }

theorem perform_runPass (phase : Phase) (config : FieldConfig) (l : Lifecycle) (w : World) :
    (l.runPass env id phase config).perform w =
      (.ok { l with record := (l.passed env id phase config w).record }, l.afterPass env id phase config w) := rfl

end Lifecycle

/-- Reading hosts and calling discreet functions is quiet. -/
theorem Surroundings.Discreet.surface (h : env.Discreet fs) {ds : List Descriptor} (hds : ∀ f ∈ functionsOf ds, fs f)
    (request response : Adapter) (log : Option Nat) (w : World) :
    (env.surface request response log).Keeps (Quiet fs busy w) (functionsOf ds) where
  header _ _ s hs := trans_of (Quiet fs busy) hs (Quiet.host s _)
  field _ _ s hs := trans_of (Quiet fs busy) hs (Quiet.host s _)
  call f hf record s hs := by
    refine trans_of (Quiet fs busy) hs ?_
    cases log with
    | none => exact (h.call _ f (hds f hf) record s).mono
    | some id => exact trans_of (Quiet fs busy) (Quiet.withRecord id record) (h.call _ f (hds f hf) record _).mono
  heard s hs := trans_of (Quiet fs busy) hs (Quiet.diagnostics s _)

theorem Surroundings.Discreet.afterPass (h : env.Discreet fs) {phase : Phase} {config : FieldConfig}
    (hds : ∀ f ∈ functionsOf (config.phase phase), fs f) (l : Lifecycle) (w : World) :
    Quiet fs busy w (l.afterPass env id phase config w) :=
  trans_of (Quiet fs busy)
    ((h.surface hds l.request l.response (some id) w).resolvePass phase l.record (refl_of (Quiet fs busy) w))
    (Quiet.diagnostics _ _)

/-- A steady state has the same log, but for its record and perhaps its state. -/
theorem Steady.lifecycle_eq (h : Steady fs busy w w') {l l' : Lifecycle} (hl : w.lifecycles.get? id = some l)
    (hl' : w'.lifecycles.get? id = some l') : ∃ record state, l' = { l with record, state } := by
  obtain ⟨record, state, hr, -⟩ := h.lifecycles id l hl
  exact ⟨record, state, Option.some.inj (hl'.symm.trans hr)⟩

/-- A log that is not there now was not there before. -/
theorem Steady.get?_eq_none (h : Steady fs busy w w') (hid : w'.lifecycles.get? id = none) :
    w.lifecycles.get? id = none := by
  cases hl : w.lifecycles.get? id with
  | none => rfl
  | some l =>
    obtain ⟨_, _, hkept, -⟩ := h.lifecycles id l hl
    rw [hid] at hkept
    cases hkept

/-! ## The steps of an arrival -/

namespace Lifecycle

theorem quiet_resolved (h : env.Discreet fs) (hw : w.Calls fs) {l : Lifecycle} {p : Pipeline} {phase : Phase}
    (hl : w.lifecycles.get? id = some l) (hp : w.pipelines.get? l.pipeline = some p) :
    Quiet fs (some id) w (l.resolved env id phase p w) := by
  have hpass : Quiet fs (some id) w (l.afterPass env id phase p.config w) := h.afterPass (hw _ p hp phase) l w
  refine trans_of (Quiet fs (some id)) hpass (Quiet.setLifecycle fun l₀ hl₀ => ?_)
  obtain ⟨record, state, rfl⟩ := hpass.toSteady.lifecycle_eq hl hl₀
  exact ⟨_, _, rfl⟩

theorem perform_resolvePre {l : Lifecycle} {p : Pipeline} (hl : w.lifecycles.get? id = some l)
    (hp : w.pipelines.get? l.pipeline = some p) :
    (resolvePre env id).perform w = (.ok (), l.resolved env id .pre p w) := by
  unfold resolvePre
  rw [perform_bind_ok (perform_lifecycle hl), perform_bind_ok (perform_pipeline hp),
    perform_bind_ok (perform_runPass .pre p.config l w)]
  rfl

theorem quiet_resolvePre (h : env.Discreet fs) (hw : w.Calls fs) :
    Quiet fs (some id) w ((resolvePre env.watched id).perform w).2 := by
  unfold resolvePre
  refine lifecycle_bind_cases (refl_of _ w) fun l hl => ?_
  refine pipeline_bind_cases (refl_of _ w) fun p hp => ?_
  exact quiet_resolved h hw hl hp

/-- Waiting for completion: whatever happens is quiet, and if it does not fail the log waits. -/
theorem quiet_awaitCompletion (fs : FieldFunction → Prop) (id : Nat) (w : World) :
    Quiet fs (some id) w ((awaitCompletion id).perform w).2 ∧
      ∀ b, ((awaitCompletion id).perform w).1 = .ok b → ∃ l,
        ((awaitCompletion id).perform w).2.lifecycles.get? id = some l ∧ l.state = .awaitingCompletion := by
  unfold awaitCompletion
  cases hl : w.lifecycles.get? id with
  | none =>
    obtain ⟨f, hf⟩ := perform_lifecycle_none hl
    rw [perform_bind_error hf]
    exact ⟨refl_of _ w, fun _ hb => by cases hb⟩
  | some l =>
    rw [perform_bind_ok (perform_lifecycle hl)]
    have hreg : Quiet fs (some id) w ((onCompletion l.response (.lifecycle id)).perform w).2 :=
      Keeps.onCompletion Quiet.host Quiet.diagnostics rfl _ w
    rcases hr : (onCompletion l.response (.lifecycle id)).perform w with ⟨f | b, w'⟩ <;> rw [hr] at hreg
    · rw [perform_bind_error hr]
      exact ⟨hreg, fun _ hb => by cases hb⟩
    · obtain ⟨record, state, hl', hs⟩ := hreg.lifecycles id l hl
      rw [perform_bind_ok hr, perform_bind_ok (perform_lifecycle hl')]
      refine ⟨trans_of (Quiet fs (some id)) hreg (Quiet.setLifecycle fun l₀ hl₀ => ?_), fun b hb => ?_⟩
      · rw [hl'] at hl₀
        exact ⟨_, _, by rw [← Option.some.inj hl₀]⟩
      · refine ⟨{ l with record, state := .awaitingCompletion }, ?_, rfl⟩
        exact Table.get?_set_self hl' _

end Lifecycle

namespace Pipeline

theorem quiet_arrive (h : env.Discreet fs) (hw : w.Calls fs) (id : Nat) :
    Quiet fs (some id) w ((arrive env.watched id).perform w).2 := by
  refine Keeps.bind_of w (Lifecycle.quiet_resolvePre h hw) fun _ _ => ?_
  refine Keeps.bind (R := Quiet fs (some id)) (Keeps.lifecycle id) (fun l => ?_) _
  refine Keeps.bind (Quiet.writeField _ _ _) fun _ => ?_
  refine Keeps.bind (Keeps.pipeline _) fun p => ?_
  exact fun w => (h.bindLogFunctions p.core l.request.target w).mono

/-- An arrival from the creation of its log on. -/
def begin (env : Surroundings) (id : Nat) : Act Nat := do
  match ← outcome (arrive env id) with
  | .ok () => pure ()
  | .error f => diagnose [.preResolutionFailed f]
  let _ ← Lifecycle.awaitCompletion id
  return id

/-- A failure before the log waits is only noted. -/
theorem perform_begin (env : Surroundings) (id : Nat) (w : World) : (begin env id).perform w =
    (Lifecycle.awaitCompletion id >>= fun _ => pure id).perform ((arrive env id).after .preResolutionFailed w) := by
  unfold begin after
  rcases hr : (arrive env id).perform w with ⟨f | u, w'⟩
  · have hout : (outcome (arrive env id)).perform w = (.ok (.error f), w') := by rw [perform_outcome, hr]
    rw [perform_bind_ok hout]
    rfl
  · have hout : (outcome (arrive env id)).perform w = (.ok (.ok u), w') := by rw [perform_outcome, hr]
    rw [perform_bind_ok hout]

/-- Whatever happens from a log's creation on is quiet but for the log itself, and if its number is returned it
waits. -/
theorem quiet_begin (h : env.Discreet fs) (hw : w.Calls fs) (id : Nat) :
    Quiet fs (some id) w ((begin env.watched id).perform w).2 ∧
      ∀ n, ((begin env.watched id).perform w).1 = .ok n → n = id ∧ ∃ l,
        ((begin env.watched id).perform w).2.lifecycles.get? id = some l ∧ l.state = .awaitingCompletion := by
  obtain ⟨ds, hafter⟩ := (arrive env.watched id).after_eq .preResolutionFailed w
  have harrive := quiet_arrive h hw id
  have hquiet := trans_of _ harrive (Quiet.diagnostics _ ds)
  rw [perform_begin, hafter]
  generalize ({ ((arrive env.watched id).perform w).2 with diagnostics := ds } : World) = w' at hquiet
  obtain ⟨hawait, hstate⟩ := Lifecycle.quiet_awaitCompletion fs id w'
  rcases hr : (Lifecycle.awaitCompletion id).perform w' with ⟨f | b, w''⟩ <;> rw [hr] at hawait hstate
  · rw [perform_bind_error hr]
    exact ⟨trans_of _ hquiet hawait, fun _ hb => by cases hb⟩
  · rw [perform_bind_ok hr]
    refine ⟨trans_of _ hquiet hawait, fun n hn => ⟨?_, hstate b rfl⟩⟩
    exact (Except.ok.inj hn).symm

/-- An arrival at a pipeline whose core gives a record: a log is created, then it begins. -/
theorem perform_startWith {pipeline : Nat} {p : Pipeline} {record : Record} (hp : w.pipelines.get? pipeline = some p)
    (hr : (env.core p.core).initLog.perform w = (.ok record, w')) (request response : Adapter) :
    (startWith env pipeline request response).perform w = (begin env w'.lifecycles.next).perform
      { w' with lifecycles := w'.lifecycles.add ⟨pipeline, request, response, record, .created⟩ } := by
  have hadd (l : Lifecycle) :
      (addLifecycle l).perform w' = (.ok w'.lifecycles.next, { w' with lifecycles := w'.lifecycles.add l }) := rfl
  unfold startWith
  rw [perform_bind_ok (perform_pipeline hp), perform_bind_ok hr, perform_bind_ok (hadd _)]
  rfl

section Cases

variable {R : World → World → Prop} [IsPreorder World R]

/-- What an arrival does that is seen through adapters: it fails before there is a log, or the log begins that it
creates. -/
theorem startWith_cases (hinit : ∀ c, Keeps R (env.core c).initLog) (pipeline : Nat) (request response : Adapter)
    (w : World) :
    ((∃ f, ((startWith env pipeline request response).perform w).1 = .error f) ∧
      R w ((startWith env pipeline request response).perform w).2) ∨
    ∃ p record w₁, w.pipelines.get? pipeline = some p ∧ R w w₁ ∧
      (startWith env pipeline request response).perform w = (begin env w₁.lifecycles.next).perform
        { w₁ with lifecycles := w₁.lifecycles.add ⟨pipeline, request, response, record, .created⟩ } := by
  cases hp : w.pipelines.get? pipeline with
  | none =>
    obtain ⟨f, hf⟩ := perform_pipeline_none hp
    unfold startWith
    rw [perform_bind_error hf]
    exact .inl ⟨⟨f, rfl⟩, refl_of R w⟩
  | some p =>
    have hkept := hinit p.core w
    rcases hr : (env.core p.core).initLog.perform w with ⟨f | record, w₁⟩ <;> rw [hr] at hkept
    · unfold startWith
      rw [perform_bind_ok (perform_pipeline hp), perform_bind_error hr]
      exact .inl ⟨⟨f, rfl⟩, hkept⟩
    · exact .inr ⟨p, record, w₁, rfl, hkept, perform_startWith hp hr request response⟩

/-- What an arrival does: it fails before its hosts can be seen through adapters, or goes on with these. -/
theorem start_cases {request response : Nat} (hrequest : Keeps R (adapter request))
    (hresponse : Keeps R (adapter response)) (env : Surroundings) (pipeline : Nat) (w : World) :
    ((∃ f, ((start env pipeline request response).perform w).1 = .error f) ∧
      R w ((start env pipeline request response).perform w).2) ∨
    ∃ a b w₁ w₂, (adapter request).perform w = (.ok a, w₁) ∧ (adapter response).perform w₁ = (.ok b, w₂) ∧
      a.target = request ∧ b.target = response ∧ R w w₂ ∧
      (start env pipeline request response).perform w = (startWith env pipeline a b).perform w₂ := by
  unfold start
  have hkept := hrequest w
  rcases hr : (adapter request).perform w with ⟨f | a, w₁⟩ <;> rw [hr] at hkept
  · rw [perform_bind_error hr]
    exact .inl ⟨⟨f, rfl⟩, hkept⟩
  have hkept' := hresponse w₁
  rcases hr' : (adapter response).perform w₁ with ⟨f | b, w₂⟩ <;> rw [hr'] at hkept'
  · rw [perform_bind_ok hr, perform_bind_error hr']
    exact .inl ⟨⟨f, rfl⟩, trans_of R hkept hkept'⟩
  · rw [perform_bind_ok hr, perform_bind_ok hr']
    exact .inr ⟨a, b, w₁, w₂, rfl, hr', adapter_target (by rw [hr]), adapter_target (by rw [hr']),
      trans_of R hkept hkept', rfl⟩

end Cases

/-- **An arrival is quiet**, and a log that it returns is a new one that waits for completion. -/
theorem quiet_startWith (h : env.Discreet fs) (hw : w.Calls fs) (pipeline : Nat) (request response : Adapter) :
    Quiet fs none w ((startWith env.watched pipeline request response).perform w).2 ∧
      ∀ id, ((startWith env.watched pipeline request response).perform w).1 = .ok id →
        w.lifecycles.get? id = none ∧
          (∃ p, ((startWith env.watched pipeline request response).perform w).2.pipelines.get? pipeline = some p) ∧
          ∃ l, ((startWith env.watched pipeline request response).perform w).2.lifecycles.get? id = some l ∧
            l.state = .awaitingCompletion ∧ l.pipeline = pipeline ∧ l.request = request ∧ l.response = response := by
  have hinit (c : Nat) : Keeps (Quiet fs none) (env.watched.core c).initLog := h.initLog c
  rcases startWith_cases hinit pipeline request response w with ⟨⟨f, hf⟩, hquiet⟩ | ⟨p, record, w₁, hp, hkept, hbegin⟩
  · exact ⟨hquiet, fun id hid => by rw [hf] at hid; cases hid⟩
  · rw [hbegin]
    let l : Lifecycle := ⟨pipeline, request, response, record, .created⟩
    let w₂ : World := { w₁ with lifecycles := w₁.lifecycles.add l }
    have hnew : w₁.lifecycles.get? w₁.lifecycles.next = none := w₁.lifecycles.get?_next
    have hl : w₂.lifecycles.get? w₁.lifecycles.next = some l := by rw [Table.get?_add, if_pos rfl]
    have hquiet : Quiet fs none w w₂ := trans_of _ hkept ⟨Steady.addLifecycle l, rfl⟩
    obtain ⟨hbegun, hstate⟩ := quiet_begin h (hquiet.calls hw) w₁.lifecycles.next
    refine ⟨?_, fun id hid => ?_⟩
    · refine trans_of _ hkept ⟨Steady.forget hnew ?_, hbegun.emissions⟩
      exact trans_of (Steady fs _) (Steady.addLifecycle l) hbegun.toSteady
    · obtain ⟨rfl, l', hl', hwaits⟩ := hstate id hid
      obtain ⟨record', state', rfl⟩ := hbegun.toSteady.lifecycle_eq hl hl'
      refine ⟨?_, ⟨p, hbegun.pipelines _ _ (hquiet.pipelines _ _ hp)⟩, _, hl', hwaits, rfl, rfl, rfl⟩
      exact hkept.toSteady.get?_eq_none hnew

/-- As `quiet_startWith`, for hosts by number. -/
theorem quiet_start (h : env.Discreet fs) (hw : w.Calls fs) (pipeline request response : Nat) :
    Quiet fs none w ((start env.watched pipeline request response).perform w).2 ∧
      ∀ id, ((start env.watched pipeline request response).perform w).1 = .ok id →
        w.lifecycles.get? id = none ∧
          (∃ p, ((start env.watched pipeline request response).perform w).2.pipelines.get? pipeline = some p) ∧
          ∃ l, ((start env.watched pipeline request response).perform w).2.lifecycles.get? id = some l ∧
            l.state = .awaitingCompletion ∧ l.pipeline = pipeline ∧ l.request.target = request ∧
              l.response.target = response := by
  have hadapter (n : Nat) : Keeps (Quiet fs none) (adapter n) := Keeps.adapter Quiet.host
  rcases start_cases (hadapter request) (hadapter response) env.watched pipeline w with
    ⟨⟨f, hf⟩, hquiet⟩ | ⟨a, b, _, w₂, -, -, rfl, rfl, hquiet, hstart⟩
  · exact ⟨hquiet, fun id hid => by rw [hf] at hid; cases hid⟩
  · rw [hstart]
    obtain ⟨hkept, hstate⟩ := quiet_startWith h (hquiet.calls hw) pipeline a b
    refine ⟨trans_of _ hquiet hkept, fun id hid => ?_⟩
    obtain ⟨hnew, hpipeline, l, hl, hwaits, hp, rfl, rfl⟩ := hstate id hid
    exact ⟨hquiet.toSteady.get?_eq_none hnew, hpipeline, l, hl, hwaits, hp, rfl, rfl⟩

end Pipeline

end ActivityLog
