import ActivityLog.Proofs.Lifecycle.Scope
import ActivityLog.Proofs.Traffic
import Mathlib.Data.List.Chain

/-!
# A log whose steps are asked for in any order

Whoever holds a log can ask it to resolve its pre fields, to wait for its response and to complete, in any order and as
often as they like. Only a completion looks at the state that it finds; the others set the state in any case.

- `Effect` is what one such move does (`Move.step_effect`), and `Move.setsBack` says when it takes the log to an earlier
  state.
- `run_moves_iff`: a log walks forth exactly as long as no move sets it back. It sends its record at most once more than
  it is set back, and once it is `emitted` it stays as it is until it is set back.
- `not_moves_forth` is a log that is set back.
-/

namespace ActivityLog

open Act

variable {env : Surroundings} {fs : FieldFunction → Prop} {w w' : World} {id : Nat} {p : Pipeline} {l l' : Lifecycle}

/-- The call sends a record. -/
def Emission.isSending : Emission → Bool
  | .overriding _ => false
  | .sending _ _ => true

namespace World

/-- How often a record has been sent so far. -/
def sends (w : World) : Nat := w.emissions.countP Emission.isSending

/-- A log is in no earlier state afterwards. -/
def Forth (id : Nat) (w w' : World) : Prop :=
  ∀ l l', w.lifecycles.get? id = some l → w'.lifecycles.get? id = some l' → l.state.rank ≤ l'.state.rank

end World

namespace Lifecycle

/-! ## Moves -/

/-- What a log is asked for. -/
inductive Move where
  | resolve
  | await
  | complete
  deriving DecidableEq, Repr

namespace Move

/-- What a log does if it is asked. -/
def act (env : Surroundings) (id : Nat) : Move → Act Unit
  | .resolve => resolvePre env id
  | .await => discard (awaitCompletion id)
  | .complete => Lifecycle.complete env id

/-- The state after a move, whether it fails or not. -/
def step (env : Surroundings) (id : Nat) (w : World) (m : Move) : World := ((m.act env id).perform w).2

/-- The response of a log takes its listener, or does not offer completion at all. -/
def registers (id : Nat) (w : World) : Bool := ((awaitCompletion id).perform w).1.isOk

/-- A move takes the log to an earlier state: its pre fields are resolved once it waits or is through, or it waits anew
once it is through. -/
def setsBack (id : Nat) (w : World) (m : Move) : Bool :=
  match w.lifecycles.get? id, m with
  | some l, .resolve => LifecycleState.preResolved.rank < l.state.rank
  | some l, .await => LifecycleState.awaitingCompletion.rank < l.state.rank && registers id w
  | _, _ => false

end Move

/-- The state after some moves. -/
def runMoves (env : Surroundings) (id : Nat) (ms : List Move) (w : World) : World := ms.foldl (Move.step env id) w

/-- How often a log is set back by some moves. -/
def setbacks (env : Surroundings) (id : Nat) : List Move → World → Nat
  | [], _ => 0
  | m :: ms, w => (m.setsBack id w).toNat + setbacks env id ms (m.step env id w)

theorem runMoves_cons (m : Move) (ms : List Move) (w : World) :
    runMoves env id (m :: ms) w = runMoves env id ms (m.step env id w) := rfl

theorem runMoves_append (ms ms' : List Move) (w : World) :
    runMoves env id (ms ++ ms') w = runMoves env id ms' (runMoves env id ms w) := List.foldl_append

/-! ## What a move does -/

/-- What a move makes of a log at a state, and what it hands over. -/
inductive Effect (env : Surroundings) (id : Nat) (p : Pipeline) (w : World) (l : Lifecycle) :
    Move → Lifecycle → List Emission → Prop where
  | resolved (record : Record) : Effect env id p w l .resolve { l with record, state := .preResolved } []
  | awaiting (h : Move.registers id w = true) : Effect env id p w l .await { l with state := .awaitingCompletion } []
  /-- The response fails when it is to take the listener. -/
  | refused (h : Move.registers id w = false) : Effect env id p w l .await l []
  | emitted (record : Record) (hs : l.state = .awaitingCompletion) :
      Effect env id p w l .complete { l with record, state := .emitted } (l.attempt env id p w)
  | ignored (hs : l.state ≠ .awaitingCompletion) : Effect env id p w l .complete l []

/-- Waiting changes nothing about a log but its state, and that only if the response does not fail. -/
theorem perform_awaitCompletion (hl : w.lifecycles.get? id = some l) :
    (Move.registers id w = true ∧ ((awaitCompletion id).perform w).2.lifecycles.get? id =
      some { l with state := .awaitingCompletion }) ∨
    (Move.registers id w = false ∧ ((awaitCompletion id).perform w).2.lifecycles.get? id = some l) := by
  have hstill : Still { hosts := [l.response.target] } w ((onCompletion l.response (.lifecycle id)).perform w).2 :=
    Still.onCompletion (List.mem_singleton.2 rfl) _ w
  have hl' := (hstill.logs id).trans hl
  unfold Move.registers awaitCompletion
  rw [perform_bind_ok (perform_lifecycle hl)]
  rcases hr : (onCompletion l.response (.lifecycle id)).perform w with ⟨f | b, w'⟩ <;> rw [hr] at hl'
  · rw [perform_bind_error hr]
    exact .inr ⟨rfl, hl'⟩
  · rw [perform_bind_ok hr, perform_bind_ok (perform_lifecycle hl')]
    exact .inl ⟨rfl, Table.get?_set_self hl' _⟩

/-- **What one move does**: it has one of the effects, and leaves other logs and all pipelines alone. -/
theorem Move.step_effect (h : env.Discreet fs) (hw : w.Calls fs) (hl : w.lifecycles.get? id = some l)
    (hp : w.pipelines.get? l.pipeline = some p) (m : Move) :
    Steady fs (some id) w (m.step env.watched id w) ∧
      ∃ l' es, Effect env id p w l m l' es ∧ (m.step env.watched id w).lifecycles.get? id = some l' ∧
        (m.step env.watched id w).emissions = w.emissions ++ es := by
  cases m with
  | resolve =>
    have hquiet : Quiet fs (some id) w (l.resolved env.watched id .pre p w) := quiet_resolved h hw hl hp
    have hstep : Move.resolve.step env.watched id w = l.resolved env.watched id .pre p w :=
      congrArg Prod.snd (perform_resolvePre hl hp)
    have hpass : Quiet fs (some id) w (l.afterPass env.watched id .pre p.config w) := h.afterPass (hw _ p hp .pre) l w
    obtain ⟨_, _, hpassed, -⟩ := hpass.lifecycles id l hl
    rw [hstep]
    exact ⟨hquiet.toSteady, _, _, .resolved _, Table.get?_set_self hpassed _,
      hquiet.emissions.trans (List.append_nil _).symm⟩
  | await =>
    have hquiet := (quiet_awaitCompletion fs id w).1
    have hstep : Move.await.step env.watched id w = ((awaitCompletion id).perform w).2 :=
      congrArg Prod.snd (perform_discard _ w)
    rw [hstep]
    refine ⟨hquiet.toSteady, ?_⟩
    rcases perform_awaitCompletion hl with ⟨hregisters, hl'⟩ | ⟨hregisters, hl'⟩
    · exact ⟨_, _, .awaiting hregisters, hl', hquiet.emissions.trans (List.append_nil _).symm⟩
    · exact ⟨_, _, .refused hregisters, hl', hquiet.emissions.trans (List.append_nil _).symm⟩
  | complete =>
    refine ⟨(steady_complete h hw id).1, ?_⟩
    by_cases hs : l.state = .awaitingCompletion
    · obtain ⟨-, hnotes, record, hl'⟩ := Event.step_of_waiting h hw hl hs hp []
      exact ⟨_, _, .emitted record hs, hl', hnotes⟩
    · have hstep : Move.complete.step env.watched id w =
          { w with diagnostics := w.diagnostics ++ [.completionIgnored (.text l.state.name)] } :=
        congrArg Prod.snd (perform_complete_of_not_waiting hl hs)
      rw [hstep]
      exact ⟨_, _, .ignored hs, hl, (List.append_nil _).symm⟩

namespace Effect

variable {m : Move} {es : List Emission}

/-- A move leaves the pipeline of a log alone. -/
theorem pipeline_eq (h : Effect env id p w l m l' es) : l'.pipeline = l.pipeline := by cases h <;> rfl

/-- The log is in an earlier state exactly if the move sets it back. -/
theorem rank_le_iff (h : Effect env id p w l m l' es) (hl : w.lifecycles.get? id = some l) :
    l.state.rank ≤ l'.state.rank ↔ m.setsBack id w = false := by
  unfold Move.setsBack
  rw [hl]
  cases h with
  | resolved record => simp
  | awaiting hregisters => simp [hregisters]
  | refused hregisters => simp [hregisters]
  | emitted record hs => simp [hs, LifecycleState.rank]
  | ignored hs => simp

/-- An `emitted` log that is not set back stays as it is, and hands nothing over. -/
theorem eq_of_emitted (h : Effect env id p w l m l' es) (hl : w.lifecycles.get? id = some l) (hs : l.state = .emitted)
    (hm : m.setsBack id w = false) : l' = l ∧ es = [] := by
  have hrank := (h.rank_le_iff hl).2 hm
  cases h with
  | resolved record => simp [hs, LifecycleState.rank] at hrank
  | awaiting hregisters => simp [hs, LifecycleState.rank] at hrank
  | refused hregisters => exact ⟨rfl, rfl⟩
  | emitted record hwaits =>
    rw [hs] at hwaits
    cases hwaits
  | ignored hnot => exact ⟨rfl, rfl⟩

end Effect

/-- A record can be written to from outside as long as its log is not `emitted`. -/
theorem perform_setRecord (hl : w.lifecycles.get? id = some l) (name : String) (value : Value) :
    ((setRecord id name value).perform w).1 = .ok (l.state != .emitted) := by
  unfold setRecord
  rw [perform_bind_ok (perform_lifecycle hl)]
  by_cases hs : l.state = .emitted
  · rw [if_pos hs, hs]
    rfl
  · rw [if_neg hs, perform_bind_ok (perform_setLifecycle id _ _), bne_iff_ne.2 hs]
    rfl

/-! ## How often a record is sent -/

/-- Handing a record over sends it at most once. -/
theorem countP_handedOver_le (env : Surroundings) (p : Pipeline) (record : Record) (w : World) :
    (handedOver env p record w).countP Emission.isSending ≤ 1 := by
  unfold handedOver
  rcases (env.core p.core).writeStaticFields record (w.noted (.overriding record)) with ⟨_ | _, _, _⟩
  · simp [Emission.isSending]
  · simp [Emission.isSending]

/-- What a log may still send without being set back. -/
def unsent (l : Lifecycle) : Nat := if l.state = .emitted then 0 else 1

/-- A move pays for what it sends: by emitting the log, or by setting it back. -/
theorem Effect.sends_le {m : Move} {es : List Emission} (h : Effect env id p w l m l' es)
    (hl : w.lifecycles.get? id = some l) :
    es.countP Emission.isSending + l'.unsent ≤ l.unsent + (m.setsBack id w).toNat := by
  have hone : l.unsent ≤ 1 := by unfold unsent; split <;> omega
  unfold Move.setsBack
  rw [hl]
  cases h with
  | resolved record =>
    by_cases hs : l.state = .emitted <;> simp [unsent, hs, LifecycleState.rank]
  | awaiting hregisters =>
    by_cases hs : l.state = .emitted <;> simp [unsent, hs, hregisters, LifecycleState.rank]
  | refused hregisters => simp
  | emitted record hs =>
    have hattempt : (l.attempt env id p w).countP Emission.isSending ≤ 1 := countP_handedOver_le env p _ _
    simpa [unsent, hs] using hattempt
  | ignored hs => simp

/-! ## Runs -/

/-- A log that is there stays there with its pipeline, whatever it is asked for. -/
theorem runMoves_get? (h : env.Discreet fs) (hw : w.Calls fs) (hl : w.lifecycles.get? id = some l)
    (hp : w.pipelines.get? l.pipeline = some p) (ms : List Move) :
    (runMoves env.watched id ms w).Calls fs ∧
      ∃ l', (runMoves env.watched id ms w).lifecycles.get? id = some l' ∧
        (runMoves env.watched id ms w).pipelines.get? l'.pipeline = some p := by
  induction ms generalizing w l with
  | nil => exact ⟨hw, l, hl, hp⟩
  | cons m ms ih =>
    obtain ⟨hsteady, l', _, heffect, hl', -⟩ := m.step_effect h hw hl hp
    exact ih (hsteady.calls hw) hl' (heffect.pipeline_eq ▸ hsteady.pipelines _ _ hp)

/-- **A log walks forth exactly as long as it is not set back.** -/
theorem isChain_forth_iff (h : env.Discreet fs) (hw : w.Calls fs) (hl : w.lifecycles.get? id = some l)
    (hp : w.pipelines.get? l.pipeline = some p) (ms : List Move) :
    (ms.scanl (Move.step env.watched id) w).IsChain (World.Forth id) ↔ setbacks env.watched id ms w = 0 := by
  induction ms generalizing w l with
  | nil => simp [setbacks]
  | cons m ms ih =>
    obtain ⟨hsteady, l', _, heffect, hl', -⟩ := m.step_effect h hw hl hp
    have hforth : World.Forth id w (m.step env.watched id w) ↔ m.setsBack id w = false := by
      rw [← heffect.rank_le_iff hl]
      refine ⟨fun hf => hf l l' hl hl', fun hrank l₁ l₂ hl₁ hl₂ => ?_⟩
      rw [hl] at hl₁
      rw [hl'] at hl₂
      cases hl₁
      cases hl₂
      exact hrank
    have hhead : (ms.scanl (Move.step env.watched id) (m.step env.watched id w)).head? =
        some (m.step env.watched id w) := by simp
    rw [List.scanl_cons, List.isChain_cons, hhead, ih (hsteady.calls hw) hl'
      (heffect.pipeline_eq ▸ hsteady.pipelines _ _ hp), setbacks]
    simp [hforth]

/-- **A log sends its record at most once more than it is set back.** -/
theorem sends_runMoves_le (h : env.Discreet fs) (hw : w.Calls fs) (hl : w.lifecycles.get? id = some l)
    (hp : w.pipelines.get? l.pipeline = some p) (ms : List Move) :
    (runMoves env.watched id ms w).sends ≤ w.sends + l.unsent + setbacks env.watched id ms w := by
  induction ms generalizing w l with
  | nil => exact Nat.le_trans (Nat.le_add_right _ l.unsent) (Nat.le_add_right _ 0)
  | cons m ms ih =>
    obtain ⟨hsteady, l', es, heffect, hl', hnotes⟩ := m.step_effect h hw hl hp
    have hrest := ih (hsteady.calls hw) hl' (heffect.pipeline_eq ▸ hsteady.pipelines _ _ hp)
    have hpaid := heffect.sends_le hl
    have hsends : (m.step env.watched id w).sends = w.sends + es.countP Emission.isSending := by
      unfold World.sends
      rw [hnotes, List.countP_append]
    rw [runMoves_cons, setbacks]
    omega

/-- **An `emitted` log stays as it is until it is set back**, and hands nothing over. -/
theorem runMoves_of_emitted (h : env.Discreet fs) (hw : w.Calls fs) (hl : w.lifecycles.get? id = some l)
    (hp : w.pipelines.get? l.pipeline = some p) (hs : l.state = .emitted) {ms : List Move}
    (hms : setbacks env.watched id ms w = 0) :
    (runMoves env.watched id ms w).lifecycles.get? id = some l ∧
      (runMoves env.watched id ms w).emissions = w.emissions := by
  induction ms generalizing w with
  | nil => exact ⟨hl, rfl⟩
  | cons m ms ih =>
    obtain ⟨hsteady, l', es, heffect, hl', hnotes⟩ := m.step_effect h hw hl hp
    rw [setbacks, Nat.add_eq_zero_iff] at hms
    have hforth : m.setsBack id w = false := by simpa using hms.1
    obtain ⟨rfl, rfl⟩ := heffect.eq_of_emitted hl hs hforth
    obtain ⟨hstays, hsent⟩ := ih (hsteady.calls hw) hl' (hsteady.pipelines _ _ hp) hms.2
    exact ⟨hstays, hsent.trans (hnotes.trans (List.append_nil _))⟩

/-- **What comes of a log whose steps are asked for in any order, as often as one likes.** Hooks and field functions may
fail, as long as they leave the logs to the pipeline.

- It never is in an earlier state than before exactly if no move sets it back (`Move.setsBack`).
- The record is sent at most once, and once more for each time that the log is set back.
- Wherever the log is `emitted`, it stays so with the very same record and hands nothing over, as long as no further
  move sets it back. -/
theorem run_moves_iff (h : env.Discreet fs) (hw : w.Calls fs) (hl : w.lifecycles.get? id = some l)
    (hp : w.pipelines.get? l.pipeline = some p) (ms : List Move) :
    ((ms.scanl (Move.step env.watched id) w).IsChain (World.Forth id) ↔ setbacks env.watched id ms w = 0) ∧
    (runMoves env.watched id ms w).sends ≤ w.sends + 1 + setbacks env.watched id ms w ∧
    ∀ before after, ms = before ++ after →
      let w₁ := runMoves env.watched id before w
      ∀ l₁, w₁.lifecycles.get? id = some l₁ → l₁.state = .emitted → setbacks env.watched id after w₁ = 0 →
        (runMoves env.watched id ms w).lifecycles.get? id = some l₁ ∧
          (runMoves env.watched id ms w).emissions = w₁.emissions := by
  refine ⟨isChain_forth_iff h hw hl hp ms, ?_, ?_⟩
  · have hsends := sends_runMoves_le h hw hl hp ms
    have hone : l.unsent ≤ 1 := by unfold unsent; split <;> omega
    omega
  · rintro before after rfl w₁ l₁ hl₁ hs hafter
    obtain ⟨hw₁, l₂, hl₂, hp₁⟩ := runMoves_get? h hw hl hp before
    rw [runMoves_append]
    rw [show l₂ = l₁ from Option.some.inj (hl₂.symm.trans hl₁)] at hp₁
    exact runMoves_of_emitted h hw₁ hl₁ hp₁ hs hafter

/-- An application with one log that has just been created; its response offers completion. -/
def unmoved : World :=
  { hosts := ⟨[{}, {}]⟩
    cores := ⟨[.recording {}]⟩
    pipelines := ⟨[⟨0, {}, .text "info"⟩]⟩
    lifecycles := ⟨[⟨0, ⟨0, .absent, none⟩, ⟨1, .absent, some .onEvent⟩, {}, .created⟩]⟩ }

/-- The usual order, with a completion that comes twice: nothing is set back, and the record is sent once. -/
theorem run_moves_iff_twice :
    let env := Application.surroundings.watched
    let ms : List Move := [.resolve, .await, .complete, .complete]
    setbacks env 0 ms unmoved = 0 ∧ (ms.scanl (Move.step env 0) unmoved).IsChain (World.Forth 0) ∧
      (runMoves env 0 ms unmoved).sends ≤ 1 := by
  intro env ms
  have hcalls : unmoved.Calls FieldFunction.IsScript := by
    rintro n p hp phase f hf
    cases n with
    | succ n => cases hp
    | zero =>
      cases hp
      cases phase <;> exact absurd hf List.not_mem_nil
  have hl : unmoved.lifecycles.get? 0 = some ⟨0, ⟨0, .absent, none⟩, ⟨1, .absent, some .onEvent⟩, {}, .created⟩ := rfl
  have hforth : setbacks env 0 ms unmoved = 0 := by decide +kernel
  obtain ⟨hchain, hsends, -⟩ := run_moves_iff Application.discreet hcalls hl (p := ⟨0, {}, .text "info"⟩) rfl ms
  rw [hforth] at hsends
  exact ⟨hforth, hchain.2 hforth, hsends⟩

/-- A log that is `emitted` is resolved anew, and its record can be written to again; or it waits anew, and its record
is sent a second time. -/
theorem not_moves_forth :
    let env := Application.surroundings.watched
    let w₁ := runMoves env 0 [.resolve, .await, .complete] unmoved
    let w₂ := runMoves env 0 [.resolve] w₁
    (w₁.lifecycles.get? 0).map Lifecycle.state = some .emitted ∧ w₁.sends = 1 ∧
    (w₂.lifecycles.get? 0).map Lifecycle.state = some .preResolved ∧
    ((setRecord 0 "status" (.int 500)).perform w₁).1 = .ok false ∧
    ((setRecord 0 "status" (.int 500)).perform w₂).1 = .ok true ∧
    (runMoves env 0 [.await, .complete] w₁).sends = 2 := by
  intro env w₁ w₂
  have hruns : (w₁.lifecycles.get? 0).map Lifecycle.state = some .emitted ∧ w₁.sends = 1 ∧
      (w₂.lifecycles.get? 0).map Lifecycle.state = some .preResolved ∧
      (runMoves env 0 [.await, .complete] w₁).sends = 2 := by decide +kernel
  obtain ⟨hemitted, honce, hback, htwice⟩ := hruns
  obtain ⟨l₁, hl₁, hs₁⟩ := Option.map_eq_some_iff.1 hemitted
  obtain ⟨l₂, hl₂, hs₂⟩ := Option.map_eq_some_iff.1 hback
  refine ⟨hemitted, honce, hback, ?_, ?_, htwice⟩
  · rw [perform_setRecord hl₁, hs₁]
    rfl
  · rw [perform_setRecord hl₂, hs₂]
    rfl

end Lifecycle

end ActivityLog
