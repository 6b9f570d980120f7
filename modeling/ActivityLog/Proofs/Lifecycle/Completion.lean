import ActivityLog.Proofs.Lifecycle.Arrival

/-!
# The completion of a request

What a completion does, by the state of the log: a log that waits has its post pass (`perform_complete_of_waiting`),
hands its record over in one attempt, and is `emitted` afterwards, whatever becomes of that (`steady_released`); in any
other state the completion is only noted (`perform_complete_of_not_waiting`).
-/

namespace ActivityLog

open Act

variable {env : Surroundings} {fs : FieldFunction → Prop} {w : World} {id : Nat} {p : Pipeline} {l : Lifecycle}

namespace Lifecycle

/-! ## The attempt to hand a record over -/

/-- The calls that handing a record over amounts to: overriding, then sending what that made of the record, unless it
failed. -/
def handedOver (env : Surroundings) (p : Pipeline) (record : Record) (w : World) : List Emission :=
  .overriding record ::
    match (env.core p.core).writeStaticFields record (w.noted (.overriding record)) with
    | (.ok (), record, _) => [.sending p.level record]
    | (.error _, _, _) => []

theorem run_emit (env : Surroundings) (p : Pipeline) (id : Nat) (record : Record) (w : World) :
    (emit env p (some id) record).run w = match (env.core p.core).writeStaticFields record w with
      | (.error f, record, w) => ((.error f, record), w.withRecord id record)
      | (.ok (), record, w) =>
        (((((env.core p.core).sendLog p.level record).perform (w.withRecord id record)).1, record),
          (((env.core p.core).sendLog p.level record).perform (w.withRecord id record)).2) := by
  have hget : ∀ {β : Type} (g : World → StateM World β), (get >>= g).run w = (g w).run w := fun _ => rfl
  unfold emit
  rw [hget]
  rcases (env.core p.core).writeStaticFields record w with ⟨_ | _, _, _⟩ <;> rfl

/-- Handing a record over leaves all states alone and is noted, whether it fails or not. -/
theorem emit_watched (h : env.Discreet fs) (p : Pipeline) (id : Nat) (record : Record) (w : World) :
    Steady fs none w ((emit env.watched p (some id) record).run w).2 ∧
      ((emit env.watched p (some id) record).run w).2.emissions = w.emissions ++ handedOver env p record w := by
  have hnoted : Steady fs none w (w.noted (.overriding record)) := Steady.note w _
  have hwrite := h.writeStaticFields p.core record (w.noted (.overriding record))
  have hwatched : (env.watched.core p.core).writeStaticFields record w =
      (env.core p.core).writeStaticFields record (w.noted (.overriding record)) := rfl
  unfold handedOver
  rw [run_emit, hwatched]
  rcases hr : (env.core p.core).writeStaticFields record (w.noted (.overriding record)) with ⟨f | u, record', w₁⟩ <;>
    rw [hr] at hwrite
  · have hquiet : Quiet fs none (w.noted (.overriding record)) (w₁.withRecord id record') :=
      trans_of _ hwrite (Quiet.withRecord id record')
    exact ⟨hnoted.trans hquiet.toSteady, by rw [hquiet.emissions, World.emissions_noted]⟩
  · have hquiet : Quiet fs none (w.noted (.overriding record)) (w₁.withRecord id record') :=
      trans_of _ hwrite (Quiet.withRecord id record')
    have hsend := h.sendLog p.core p.level record' ((w₁.withRecord id record').noted (.sending p.level record'))
    refine ⟨hnoted.trans (hquiet.toSteady.trans ((Steady.note _ _).trans hsend.toSteady)), ?_⟩
    refine hsend.emissions.trans ?_
    rw [World.emissions_noted, hquiet.emissions, World.emissions_noted, List.append_assoc]
    rfl

/-! ## The second half of a log -/

/-- What is said of an attempt to hand a record over: only that it failed. -/
def verdict : Except Failure Unit → List Diagnostic
  | .ok () => []
  | .error f => [.emissionFailed f]

/-- The state after the attempt to hand the record of a log over. -/
def released (env : Surroundings) (id : Nat) (p : Pipeline) (l : Lifecycle) (w : World) : World :=
  let out := (emit env p (some id) (l.passed env id .post p.config w).record).run (l.resolved env id .post p w)
  let l' := { l with record := out.1.2, state := .emitted }
  { out.2 with
    lifecycles := out.2.lifecycles.set id l'
    diagnostics := out.2.diagnostics ++ verdict out.1.1 }

theorem perform_finish (hl : w.lifecycles.get? id = some l) (hp : w.pipelines.get? l.pipeline = some p) :
    (finish env id).perform w = (.ok (), l.released env id p w) := by
  unfold finish released
  rw [perform_bind_ok (perform_lifecycle hl), perform_bind_ok (perform_pipeline hp),
    perform_bind_ok (perform_runPass .post p.config l w)]
  rw [perform_bind_ok (perform_setLifecycle id _ _), perform_bind_ok (perform_lift _ _)]
  dsimp only [resolved, resolvedState]
  generalize (emit env p (some id) _).run _ = out
  obtain ⟨⟨result, record⟩, w'⟩ := out
  cases result with
  | error f => rfl
  | ok u =>
    simp only [verdict, List.append_nil]
    rfl

/-- The first completion: the second half of the log, then the record goes back to the request. -/
theorem perform_complete_of_waiting (hl : w.lifecycles.get? id = some l) (hs : l.state = .awaitingCompletion)
    (hp : w.pipelines.get? l.pipeline = some p) : (complete env id).perform w =
      (writeField l.request.target recordField (.shared (.record id) true)).perform (l.released env id p w) := by
  unfold complete
  rw [perform_bind_ok (perform_lifecycle hl), if_pos hs, perform_bind_ok (perform_finish hl hp)]

/-- **A completion of a log that does not wait is only noted.** -/
theorem perform_complete_of_not_waiting (hl : w.lifecycles.get? id = some l) (hs : l.state ≠ .awaitingCompletion) :
    (complete env id).perform w =
      (.ok (), { w with diagnostics := w.diagnostics ++ [.completionIgnored (.text l.state.name)] }) := by
  unfold complete
  rw [perform_bind_ok (perform_lifecycle hl), if_neg hs, perform_diagnose]

theorem perform_complete_of_no_pipeline (hl : w.lifecycles.get? id = some l) (hs : l.state = .awaitingCompletion)
    (hp : w.pipelines.get? l.pipeline = none) : ((complete env id).perform w).2 = w := by
  unfold complete
  obtain ⟨f, hf⟩ := perform_pipeline_none hp
  rw [perform_bind_ok (perform_lifecycle hl), if_pos hs]
  have hfinish : (finish env id).perform w = (.error f, w) := by
    unfold finish
    rw [perform_bind_ok (perform_lifecycle hl), perform_bind_error hf]
  rw [perform_bind_error hfinish]

/-- What a completion comes to: nothing but a note, or the second half of a log that waits. -/
theorem complete_cases {P : World → Prop} (id : Nat) (hsame : P w) (hnoted : ∀ ds, P { w with diagnostics := ds })
    (hreleased : ∀ l p, w.lifecycles.get? id = some l → w.pipelines.get? l.pipeline = some p →
      P ((writeField l.request.target recordField (.shared (.record id) true)).perform (l.released env id p w)).2) :
    P ((complete env id).perform w).2 := by
  cases hl : w.lifecycles.get? id with
  | none =>
    obtain ⟨f, hf⟩ := perform_lifecycle_none hl
    unfold complete
    rw [perform_bind_error hf]
    exact hsame
  | some l =>
    by_cases hs : l.state = .awaitingCompletion
    · cases hp : w.pipelines.get? l.pipeline with
      | none =>
        rw [perform_complete_of_no_pipeline hl hs hp]
        exact hsame
      | some p =>
        rw [perform_complete_of_waiting hl hs hp]
        exact hreleased l p hl hp
    · rw [perform_complete_of_not_waiting hl hs]
      exact hnoted _

/-- What handing over the record of a log amounts to when it is completed. -/
def attempt (env : Surroundings) (id : Nat) (p : Pipeline) (l : Lifecycle) (w : World) : List Emission :=
  handedOver env p (l.passed env id .post p.config w).record (l.resolved env id .post p w)

/-- **A log is handed over once and is `emitted` afterwards**, whatever becomes of the attempt; other logs keep their
states. -/
theorem steady_released (h : env.Discreet fs) (hw : w.Calls fs) (hl : w.lifecycles.get? id = some l)
    (hp : w.pipelines.get? l.pipeline = some p) :
    Steady fs (some id) w (l.released env.watched id p w) ∧
      (l.released env.watched id p w).emissions = w.emissions ++ l.attempt env id p w ∧
      ∃ record, (l.released env.watched id p w).lifecycles.get? id = some { l with record, state := .emitted } := by
  have hres : Quiet fs (some id) w (l.resolved env.watched id .post p w) := quiet_resolved h hw hl hp
  have hattempt : l.attempt env id p w =
      handedOver env p (l.passed env.watched id .post p.config w).record (l.resolved env.watched id .post p w) := rfl
  obtain ⟨hemit, hnotes⟩ :=
    emit_watched h p id (l.passed env.watched id .post p.config w).record (l.resolved env.watched id .post p w)
  rw [← hattempt, hres.emissions] at hnotes
  unfold released
  dsimp only
  generalize (emit env.watched p (some id) _).run (l.resolved env.watched id .post p w) = out at hemit hnotes
  have hout : Steady fs (some id) w out.2 := hres.toSteady.trans hemit.mono
  obtain ⟨record, state, hl', -⟩ := hout.lifecycles id l hl
  refine ⟨hout.trans ?_, hnotes, out.1.2, ?_⟩
  · refine Steady.of_set rfl rfl fun l₀ hl₀ => ?_
    rw [hl'] at hl₀
    exact ⟨_, _, by rw [← Option.some.inj hl₀]⟩
  · exact Table.get?_set_self hl' _

/-! ## Completions in any state -/

/-- What a completion hands over: something only if the log waits. -/
def due (env : Surroundings) (id : Nat) (w : World) : List Emission :=
  match w.lifecycles.get? id with
  | none => []
  | some l =>
    if l.state = .awaitingCompletion then
      match w.pipelines.get? l.pipeline with
      | none => []
      | some p => l.attempt env id p w
    else []

/-- **A completion hands over what is due**, and leaves the states of other logs alone. -/
theorem steady_complete (h : env.Discreet fs) (hw : w.Calls fs) (id : Nat) :
    Steady fs (some id) w ((complete env.watched id).perform w).2 ∧
      ((complete env.watched id).perform w).2.emissions = w.emissions ++ due env id w := by
  unfold due
  cases hl : w.lifecycles.get? id with
  | none =>
    unfold complete
    obtain ⟨f, hf⟩ := perform_lifecycle_none hl
    rw [perform_bind_error hf]
    exact ⟨refl_of _ w, (List.append_nil _).symm⟩
  | some l =>
    dsimp only
    split
    · next hs =>
      cases hp : w.pipelines.get? l.pipeline with
      | none =>
        rw [perform_complete_of_no_pipeline hl hs hp]
        exact ⟨refl_of _ w, (List.append_nil _).symm⟩
      | some p =>
        obtain ⟨hsteady, hnotes, -⟩ := steady_released h hw hl hp
        have hwrite : Quiet fs (some id) (l.released env.watched id p w) _ :=
          Quiet.writeField l.request.target recordField (.shared (.record id) true) _
        rw [perform_complete_of_waiting hl hs hp]
        exact ⟨hsteady.trans hwrite.toSteady, hwrite.emissions.trans hnotes⟩
    · next hs =>
      rw [perform_complete_of_not_waiting hl hs]
      exact ⟨Steady.of_same rfl rfl, (List.append_nil _).symm⟩

end Lifecycle

end ActivityLog
