import ActivityLog.Proofs.Lifecycle.Scripts

/-!
# Traffic

What happens to an application from outside, in any order: requests arrive and are completed, cores are asked to
override fields, to change levels and patterns, to log messages. Failures do not stop what comes after.

- Every event is steady for all logs but the one that it completes (`Event.step_steady`), so a log that waits does so
  until its first completion (`run_steady`).
- All that is handed over is due to completions of logs that wait (`run_emissions`).
- `completion_fires_once`: a log hands its record over once, on its first completion.
-/

namespace ActivityLog

/-- An event from outside. -/
inductive Event where
  /-- A request arrives at a pipeline. -/
  | start (pipeline request response : Nat)
  /-- A log is told of a completion. -/
  | completion (id : Nat) (arguments : List Value)
  | override (core : Nat) (name : String) (value : Value)
  | setLevel (core : Nat) (level : Value)
  | setPattern (core : Nat) (pattern : Value)
  | message (core : Nat) (level message : Value) (fields : Record)

namespace Event

/-- The state after an event, whether it fails or not. -/
def step (env : Surroundings) (w : World) : Event → World
  | .start pipeline request response => ((Pipeline.start env pipeline request response).perform w).2
  | .completion id arguments => ((Handle.notify env arguments (.lifecycle id)).perform w).2
  | .override core name value => (((env.core core).overrideField name value).perform w).2
  | .setLevel core level => (((env.core core).setLoggingLevel level).perform w).2
  | .setPattern core pattern => (((env.core core).setLogPattern pattern).perform w).2
  | .message core level text fields => (((env.core core).logMessage level text fields).perform w).2

/-- The log that an event completes. -/
def completed? : Event → Option Nat
  | .completion id _ => some id
  | _ => none

/-- What an event hands over, and of which log: something only if it completes a log that waits. -/
def due (env : Surroundings) (w : World) (e : Event) : List (Nat × Emission) :=
  match e.completed? with
  | none => []
  | some id => (Lifecycle.due env id w).map fun x => (id, x)

end Event

/-- The state after some events. -/
def run (env : Surroundings) (es : List Event) (w : World) : World := es.foldl (Event.step env) w

/-- What events hand over one after the other, and of which logs. -/
def due (env : Surroundings) : List Event → World → List (Nat × Emission)
  | [], _ => []
  | e :: es, w => e.due env w ++ due env es (e.step env.watched w)

variable {env : Surroundings} {fs : FieldFunction → Prop} {w : World} {id : Nat}

/-! ## One event -/

/-- **An event leaves all logs alone but the one that it completes**, and hands over what is due. -/
theorem Event.step_steady (h : env.Discreet fs) (hw : w.Calls fs) (e : Event) :
    Steady fs e.completed? w (e.step env.watched w) ∧
      (e.step env.watched w).emissions = w.emissions ++ (e.due env w).map Prod.snd := by
  have quiet {w' : World} (h : Quiet fs none w w') : Steady fs none w w' ∧ w'.emissions = w.emissions ++ [] :=
    ⟨h.toSteady, by rw [h.emissions, List.append_nil]⟩
  cases e with
  | start pipeline request response => exact quiet (Pipeline.quiet_start h hw pipeline request response).1
  | completion id arguments =>
    obtain ⟨hsteady, hnotes⟩ := Lifecycle.steady_complete h hw id
    refine ⟨hsteady, hnotes.trans ?_⟩
    simp [due, completed?, Function.comp_def]
  | override core name value => exact quiet (h.overrideField core name value w)
  | setLevel core level => exact quiet (h.setLoggingLevel core level w)
  | setPattern core pattern => exact quiet (h.setLogPattern core pattern w)
  | message core level text fields => exact quiet (h.logMessage core level text fields w)

/-! ## Runs -/

theorem run_append (es es' : List Event) (w : World) : run env (es ++ es') w = run env es' (run env es w) :=
  List.foldl_append

/-- Pipelines stay along a run. -/
theorem run_pipelines (h : env.Discreet fs) (hw : w.Calls fs) (es : List Event) :
    (run env.watched es w).Calls fs ∧
      ∀ n p, w.pipelines.get? n = some p → (run env.watched es w).pipelines.get? n = some p := by
  induction es generalizing w with
  | nil => exact ⟨hw, fun _ _ hp => hp⟩
  | cons e es ih =>
    obtain ⟨hsteady, -⟩ := e.step_steady h hw
    obtain ⟨hcalls, hrest⟩ := ih (hsteady.calls hw)
    exact ⟨hcalls, fun n p hp => hrest n p (hsteady.pipelines n p hp)⟩

/-- **All that is handed over along a run is due.** -/
theorem run_emissions (h : env.Discreet fs) (hw : w.Calls fs) (es : List Event) :
    (run env.watched es w).emissions = w.emissions ++ (due env es w).map Prod.snd := by
  induction es generalizing w with
  | nil => exact (List.append_nil _).symm
  | cons e es ih =>
    obtain ⟨hsteady, hnotes⟩ := e.step_steady h hw
    refine (ih (hsteady.calls hw)).trans ?_
    rw [hnotes, due, List.map_append, List.append_assoc]

/-- A log that is not completed keeps its state. -/
theorem run_steady (h : env.Discreet fs) (hw : w.Calls fs) {es : List Event} (hes : ∀ e ∈ es, e.completed? ≠ some id)
    {l : Lifecycle} (hl : w.lifecycles.get? id = some l) :
    ∃ record, (run env.watched es w).lifecycles.get? id = some { l with record } := by
  induction es generalizing w l with
  | nil => exact ⟨l.record, hl⟩
  | cons e es ih =>
    obtain ⟨hsteady, -⟩ := e.step_steady h hw
    obtain ⟨record, state, hl', hs⟩ := hsteady.lifecycles id l hl
    obtain rfl := hs (hes e List.mem_cons_self)
    obtain ⟨record', hrest⟩ := ih (hsteady.calls hw) (fun x hx => hes x (List.mem_cons_of_mem _ hx)) hl'
    exact ⟨record', hrest⟩

theorem due_of_not_completed {es : List Event} (hes : ∀ e ∈ es, e.completed? ≠ some id) (w : World) :
    ∀ x ∈ due env es w, x.1 ≠ id := by
  induction es generalizing w with
  | nil => exact fun x hx => absurd hx List.not_mem_nil
  | cons e es ih =>
    intro x hx
    rcases List.mem_append.1 hx with hx | hx
    · unfold Event.due at hx
      split at hx
      · exact absurd hx List.not_mem_nil
      · next n hn =>
        obtain ⟨y, -, rfl⟩ := List.mem_map.1 hx
        rintro rfl
        exact hes e List.mem_cons_self hn
    · exact ih (fun y hy => hes y (List.mem_cons_of_mem _ hy)) _ x hx

/-- The first completion of a log: the second half of the log, then the record goes back to the request. -/
theorem Event.step_of_waiting (h : env.Discreet fs) (hw : w.Calls fs) {l : Lifecycle} {p : Pipeline}
    (hl : w.lifecycles.get? id = some l) (hs : l.state = .awaitingCompletion)
    (hp : w.pipelines.get? l.pipeline = some p) (arguments : List Value) :
    (completion id arguments).step env.watched w =
        ((Act.writeField l.request.target recordField (.shared (.record id) true)).perform
          (l.released env.watched id p w)).2 ∧
      ((completion id arguments).step env.watched w).emissions = w.emissions ++ l.attempt env id p w ∧
      ∃ record, ((completion id arguments).step env.watched w).lifecycles.get? id =
        some { l with record, state := .emitted } := by
  have hstep : (completion id arguments).step env.watched w = _ :=
    congrArg Prod.snd (Lifecycle.perform_complete_of_waiting hl hs hp)
  obtain ⟨-, hnotes, record, hl'⟩ := Lifecycle.steady_released h hw hl hp
  have hwrite : Quiet fs none (l.released env.watched id p w) _ :=
    Quiet.writeField l.request.target recordField (.shared (.record id) true) _
  obtain ⟨record', state', hl'', hkept⟩ := hwrite.lifecycles id _ hl'
  obtain rfl := hkept (Option.some_ne_none _).symm
  rw [hstep]
  exact ⟨rfl, hwrite.emissions.trans hnotes, record', hl''⟩

/-! ## Logs that are through -/

/-- A completion of a log that is `emitted` is only noted. -/
theorem Event.step_of_emitted {l : Lifecycle} (hl : w.lifecycles.get? id = some l) (hs : l.state = .emitted)
    (arguments : List Value) : (completion id arguments).step env w =
      { w with diagnostics := w.diagnostics ++ [.completionIgnored (.text "emitted")] } := by
  have hnot : l.state ≠ .awaitingCompletion := by rw [hs]; decide
  show ((Lifecycle.complete env id).perform w).2 = _
  rw [Lifecycle.perform_complete_of_not_waiting hl hnot, hs]
  rfl

/-- **A log that is `emitted` stays so and hands nothing over**, whatever happens. -/
theorem run_of_emitted (h : env.Discreet fs) (hw : w.Calls fs) (es : List Event) {l : Lifecycle}
    (hl : w.lifecycles.get? id = some l) (hs : l.state = .emitted) :
    (∃ record, (run env.watched es w).lifecycles.get? id = some { l with record }) ∧
      ∀ x ∈ due env es w, x.1 ≠ id := by
  induction es generalizing w l with
  | nil => exact ⟨⟨l.record, hl⟩, fun x hx => absurd hx List.not_mem_nil⟩
  | cons e es ih =>
    obtain ⟨hsteady, -⟩ := e.step_steady h hw
    by_cases he : e.completed? = some id
    · obtain ⟨arguments, rfl⟩ : ∃ arguments, e = .completion id arguments := by
        cases e <;> cases he
        exact ⟨_, rfl⟩
      have hnone : (Event.completion id arguments).due env w = [] := by
        simp [Event.due, Event.completed?, Lifecycle.due, hl, hs]
      have hl' : ((Event.completion id arguments).step env.watched w).lifecycles.get? id = some l := by
        rw [Event.step_of_emitted hl hs]
        exact hl
      rw [due, hnone]
      exact ih (hsteady.calls hw) hl' hs
    · obtain ⟨record, state, hl', hkept⟩ := hsteady.lifecycles id l hl
      obtain rfl := hkept he
      obtain ⟨hstays, hothers⟩ := ih (hsteady.calls hw) hl' hs
      refine ⟨hstays, fun x hx => ?_⟩
      rcases List.mem_append.1 hx with hx | hx
      · have hone : ∀ y ∈ [e], y.completed? ≠ some id := by simpa using he
        exact due_of_not_completed hone w x (List.mem_append_left _ hx)
      · exact hothers x hx

/-! ## Single fire -/

/-- **A log hands its record over once.** Let an arrival return a log, in whatever state, and let anything happen but
its completion; then it is completed, and anything may happen after that. Hooks and field functions may fail, as long as
they leave the logs to the pipeline.

- Nothing is handed over for the log before its first completion, and it waits until then.
- The first completion is one post pass over its record and one attempt to hand over what that makes of it (`attempt`);
  afterwards the record goes back to the request. Even if the attempt fails, the log is `emitted`.
- It stays `emitted`, nothing more is handed over for it, and another completion changes nothing but to be noted. -/
theorem completion_fires_once (h : env.Discreet fs) {w₀ : World} (hw : w₀.Calls fs) {pipeline request response : Nat}
    (hstart : ((Pipeline.start env.watched pipeline request response).perform w₀).1 = .ok id) {before : List Event}
    (hbefore : ∀ e ∈ before, e.completed? ≠ some id) (arguments : List Value) (after : List Event) :
    let w₁ := (Event.start pipeline request response).step env.watched w₀
    let w₂ := run env.watched before w₁
    let w₃ := (Event.completion id arguments).step env.watched w₂
    let w₄ := run env.watched after w₃
    w₁.emissions = w₀.emissions ∧
    w₂.emissions = w₁.emissions ++ (due env before w₁).map Prod.snd ∧ (∀ x ∈ due env before w₁, x.1 ≠ id) ∧
    ∃ l p, w₂.lifecycles.get? id = some l ∧ w₂.pipelines.get? pipeline = some p ∧
      l.state = .awaitingCompletion ∧ l.pipeline = pipeline ∧ l.request.target = request ∧
      l.response.target = response ∧
      w₃ = ((Act.writeField request recordField (.shared (.record id) true)).perform
        (l.released env.watched id p w₂)).2 ∧
      w₃.emissions = w₂.emissions ++ l.attempt env id p w₂ ∧
      (∃ record, w₃.lifecycles.get? id = some { l with record, state := .emitted }) ∧
      (∃ record, w₄.lifecycles.get? id = some { l with record, state := .emitted }) ∧
      w₄.emissions = w₃.emissions ++ (due env after w₃).map Prod.snd ∧ (∀ x ∈ due env after w₃, x.1 ≠ id) ∧
      ∀ arguments, (Event.completion id arguments).step env.watched w₄ =
        { w₄ with diagnostics := w₄.diagnostics ++ [.completionIgnored (.text "emitted")] } := by
  intro w₁ w₂ w₃ w₄
  obtain ⟨hquiet, hreturned⟩ := Pipeline.quiet_start h hw pipeline request response
  obtain ⟨-, ⟨p, hp⟩, l, hl, hwaits, hpipeline, rfl, rfl⟩ := hreturned id hstart
  change Quiet fs none w₀ w₁ at hquiet
  change w₁.pipelines.get? pipeline = some p at hp
  change w₁.lifecycles.get? id = some l at hl
  have hw₁ : w₁.Calls fs := hquiet.calls hw
  clear_value w₁
  obtain ⟨hw₂, hpipelines⟩ := run_pipelines h hw₁ before
  obtain ⟨record, hl₂⟩ := run_steady h hw₁ hbefore hl
  have hp₂ := hpipelines pipeline p hp
  have hnotes₂ := run_emissions h hw₁ before
  have hothers₂ : ∀ x ∈ due env before w₁, x.1 ≠ id := due_of_not_completed hbefore w₁
  change w₂.Calls fs at hw₂
  change w₂.lifecycles.get? id = _ at hl₂
  change w₂.pipelines.get? pipeline = _ at hp₂
  change w₂.emissions = _ at hnotes₂
  clear_value w₂
  obtain ⟨hstep, hnotes₃, record', hl₃⟩ := Event.step_of_waiting h hw₂ hl₂ hwaits (hpipeline ▸ hp₂) arguments
  have hw₃ : w₃.Calls fs := (Event.step_steady h hw₂ _).1.calls hw₂
  change w₃ = _ at hstep
  change w₃.emissions = _ at hnotes₃
  change w₃.lifecycles.get? id = _ at hl₃
  clear_value w₃
  obtain ⟨⟨record₄, hl₄⟩, hothers₄⟩ := run_of_emitted h hw₃ after hl₃ rfl
  exact ⟨hquiet.emissions, hnotes₂, hothers₂, { l with record }, p, hl₂, hp₂, hwaits, hpipeline, rfl, rfl, hstep,
    hnotes₃, ⟨_, hl₃⟩, ⟨_, hl₄⟩, run_emissions h hw₃ after, hothers₄, Event.step_of_emitted hl₄ rfl⟩

/-- An application whose core cannot send: one pipeline with one field, and four dictionaries for hosts. -/
def outage : World :=
  let message : Host := { nature := .dict, items := ⟨[("headers", .dict [])]⟩ }
  let status : Descriptor := ⟨"status", .special, true, .null, some (.script (.const (some (.int 500))))⟩
  { hosts := ⟨[message, message, message, message]⟩
    cores := ⟨[.recording { failures := ⟨[("send_log", .fault .runtime "down")]⟩ }]⟩
    pipelines := ⟨[⟨0, { post := [status] }, .text "info"⟩]⟩ }

/-- Two requests at once while nothing can be sent: the first one's log is through after its completion, which comes
after the other's, and stays so when both are told again. -/
theorem completion_fires_once_outage :
    let env := Application.surroundings
    let w₁ := (Event.start 0 0 1).step env.watched outage
    let w₂ := run env.watched [.start 0 2 3, .completion 1 []] w₁
    let w₃ := (Event.completion 0 []).step env.watched w₂
    let w₄ := run env.watched [.completion 0 [], .completion 1 []] w₃
    env.Discreet FieldFunction.IsScript ∧ outage.Calls FieldFunction.IsScript ∧
    ((Pipeline.start env.watched 0 0 1).perform outage).1 = .ok 0 ∧
    w₁.emissions = [] ∧
    (∃ l, w₃.lifecycles.get? 0 = some l ∧ l.state = .emitted) ∧
    (∃ l, w₄.lifecycles.get? 0 = some l ∧ l.state = .emitted) ∧
    ∀ arguments, (Event.completion 0 arguments).step env.watched w₄ =
      { w₄ with diagnostics := w₄.diagnostics ++ [.completionIgnored (.text "emitted")] } := by
  intro env w₁ w₂ w₃ w₄
  have hcalls : outage.Calls FieldFunction.IsScript := by
    rintro n p hp phase f hf
    cases n with
    | succ n => cases hp
    | zero =>
      cases hp
      cases phase with
      | pre => exact absurd hf List.not_mem_nil
      | post => exact ⟨_, List.mem_singleton.1 hf⟩
  have hstart : ((Pipeline.start env.watched 0 0 1).perform outage).1 = .ok 0 := rfl
  have hbefore : ∀ e ∈ [Event.start 0 2 3, .completion 1 []], e.completed? ≠ some 0 := by decide
  obtain ⟨hnone, -, -, l, p, -, -, -, -, -, -, -, -, ⟨_, hfirst⟩, ⟨_, hlast⟩, -, -, hagain⟩ :=
    completion_fires_once Application.discreet hcalls hstart hbefore [] [.completion 0 [], .completion 1 []]
  exact ⟨Application.discreet, hcalls, hstart, hnone, ⟨_, hfirst, rfl⟩, ⟨_, hlast, rfl⟩, hagain⟩

end ActivityLog
