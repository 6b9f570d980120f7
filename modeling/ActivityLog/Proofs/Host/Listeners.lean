import ActivityLog.Proofs.Lifecycle.Waiting
import Mathlib.Data.List.Forall2

/-!
# Listeners of a stand-in

Listeners register with a stand-in while its response is still to come. Later on they can be told in two ways: the
stand-in itself is told of the completion, or the work that follows one of its responses runs. These come in any order
and as often as one likes, and the stand-in may meanwhile be bound to further responses, or once more to the same ones
(`Handle.Move`).

- `Handle.Session.Holds`: what every move keeps, given who still waits. A move either tells nobody and changes the
  stand-in at most (`Holds.quiet_step`), or it tells all who wait, and then runs its task (`Holds.telling_step`).
- `Handle.session_tells_once`: the listeners are told by the first move that can tell anybody, once and in order, and
  tasks run only after that. What is read of the stand-in is its response's, as soon as it has one.
-/

namespace ActivityLog

open Act

/-- The work tells listeners so many times, and ends with this task of the application's own, if with any. -/
inductive Background.Ends : Option Background → Option String → Prop where
  | nothing : Ends none none
  | task (text : String) : Ends (some (.task text)) (some text)
  | completion {inner : Option Background} {task : Option String} (h : Ends inner task) :
      Ends (some (.completion inner)) task

/-- The response once its headers have been looked at. -/
def Response.seen (r : Response) : Response := { r with looked := true }

/-- A stand-in that is as it was, but that the headers of its response may have been looked at. -/
def World.KeepsStandIn (w : World) (id : Nat) (stand : Handle) : Prop :=
  w.StandsIn id stand ∨ w.StandsIn id stand.looked

/-- What an adapter reads once there is this response, if there is one: its headers, and its fields where the stand-in
has nothing of its own. -/
def Adapter.Shows (a : Adapter) (r : Option Response) (w : World) : Prop :=
  ∀ name, ((Act.readHeader a name).perform w).1 = r.elim (.ok .null) (fun r => Headers.ask r.headerValue name) ∧
    (Handle.isOwn name = false →
      ((Act.readField a.target name).perform w).1 = .ok ((r.bind (·.attr? name)).getD .null))

namespace Handle

/-- Binds a stand-in to a response, and hands the response back. -/
def bound (id : Nat) (r : Response) : Act Response := do
  let _ ← bindAt id r
  return { r with background := (← standIn id).background? }

/-- The response that is handed back: the same, unless listeners wait. -/
def handedBack (waiting : List Listener) (r : Response) : Response :=
  if waiting.isEmpty then r else { r with background := some (.completion r.background) }

/-- What is done with a stand-in after the registrations. -/
inductive Move where
  /-- It is told of the completion. -/
  | fire
  /-- The work that follows a response runs, if there is one of that number. -/
  | finish (n : Nat)
  /-- It is bound to a further response, with or without a task of the application's own. -/
  | bind (r : Response) (task : Option String)
  /-- It is bound once more to the response of that number, as it is by then, followed by the work that it has. -/
  | rebind (n : Nat) (r : Response)

/-- What became of the responses: the work that follows each of them by now, and the one bound last. -/
structure Session where
  works : List (Option Background) := []
  last : Option Response := none

namespace Move

/-- A move. -/
def act (env : Surroundings) (id : Nat) (b : Session) : Move → Act Session
  | .fire => do
    Handle.fire env id
    return b
  | .finish n => do
    b.works[n]?.join.forM (runBackground env id)
    return b
  | .bind r task => do
    let r ← bound id { r with background := task.map .task }
    return { works := b.works ++ [r.background], last := some r }
  | .rebind n r => do
    match b.works[n]? with
    | none => return b
    | some work =>
      let r ← bound id { r with background := work }
      return { works := b.works.set n r.background, last := some r }

/-- The tasks of the responses after a move, given those before. -/
def own (tasks : List (Option String)) : Move → List (Option String)
  | .bind _ task => tasks ++ [task]
  | _ => tasks

/-- Whether a move tells those who wait: it fires, or runs the work that follows one of so many responses. -/
def tells (responses : Nat) : Move → Bool
  | .fire => true
  | .finish n => decide (n < responses)
  | _ => false

/-- The task that a move runs, given the tasks of the responses. -/
def runs (tasks : List (Option String)) : Move → List String
  | .finish n => tasks[n]?.join.toList
  | _ => []

end Move

/-- Whether one of the moves tells those who wait. -/
def tells : List (Option String) → List Move → Bool
  | _, [] => false
  | tasks, m :: ms => m.tells tasks.length || tells (m.own tasks) ms

/-- The tasks that moves run, one after the other. -/
def runs : List (Option String) → List Move → List String
  | _, [] => []
  | tasks, m :: ms => m.runs tasks ++ runs (m.own tasks) ms

/-- What is noted of a task that runs. -/
def ran (task : String) : List Value := [.text "background", .text task]

/-- What is noted of an observer that is told. -/
def heard (tag : String) : List Value := [.text "listener", .text tag, .list []]

/-- Telling these listeners does not fail and leaves the stand-in alone, as long as nothing but the stand-in has changed
and nobody waits there any more. -/
def Tellable (env : Surroundings) (id : Nat) (ls : List Listener) (w : World) : Prop :=
  ∀ v stand, OnlyAt id [] w v → v.StandsIn id stand → stand.listeners = [] →
    ∃ v', (ls.forM (notify env [])).perform v = (.ok (), v') ∧ v'.KeepsStandIn id stand

/-- From one state to the other the listeners have been told, one after the other. Nothing but the stand-in changed
before that, and after that only these calls were noted. -/
def Told (env : Surroundings) (id : Nat) (ls : List Listener) (calls : List (List Value)) (w w' : World) : Prop :=
  ∃ v v', OnlyAt id [] w v ∧ (ls.forM (notify env [])).perform v = (.ok (), v') ∧ OnlyAt id calls v' w'

end Handle

variable {env : Surroundings} {fs : FieldFunction → Prop} {s : Nat} {w w' w'' : World} {stand : Handle}
  {waiting ls : List Listener} {tasks : List (Option String)} {m : Handle.Move} {b : Handle.Session}

/-! ## What is done with a stand-in -/

namespace Handle

theorem runBackground_completion (inner : Option Background) :
    runBackground env s (.completion inner) = fire env s >>= fun _ => inner.forM (runBackground env s) := by
  cases inner with
  | none =>
    unfold runBackground
    exact (bind_pure_unit).symm
  | some inner => rw [runBackground]; rfl

end Handle

namespace World.StandsIn

open Handle

/-- Listeners are kept in the order of their registration. -/
theorem perform_registrations (hs : w.StandsIn s stand) (ls : List Listener) :
    ∃ w', (ls.forM fun l => discard (onCompletion ⟨s, .ofHandle, some .ofHandle⟩ l)).perform w = (.ok (), w') ∧
      w'.StandsIn s { stand with listeners := stand.listeners ++ ls } ∧ OnlyAt s [] w w' := by
  induction ls generalizing w stand with
  | nil => exact ⟨w, rfl, by rwa [List.append_nil], .refl s w⟩
  | cons l ls ih =>
    obtain ⟨v, hregistered, hs', honly⟩ := hs.perform_onCompletion l
    obtain ⟨w', hrest, hs'', honly'⟩ := ih hs'
    refine ⟨w', ?_, ?_, honly.trans honly'⟩
    · rw [List.forM, discard_eq, bind_assoc, perform_bind_ok hregistered]
      exact hrest
    · rwa [Handle.register, List.append_assoc] at hs''

/-- **A stand-in hands back the response that it is bound to**, which is the same unless listeners wait. -/
theorem perform_bound (hs : w.StandsIn s stand) (r : Response) :
    ∃ w', (bound s r).perform w = (.ok (handedBack stand.listeners r), w') ∧
      w'.StandsIn s { stand with response := some (.response (handedBack stand.listeners r)) } ∧
      OnlyAt s [] w w' := by
  obtain ⟨w', hbound, hs', honly⟩ := hs.perform_bindAt r
  have hback : stand.bind r = { stand with response := some (.response (handedBack stand.listeners r)) } := rfl
  rw [hback] at hs'
  refine ⟨w', ?_, hs', honly⟩
  unfold bound
  rw [perform_bind_ok hbound, perform_bind_ok hs'.perform_standIn]
  unfold handedBack background?
  dsimp only
  split <;> rfl

/-- **Work that runs when nobody waits** comes down to the task at its end. -/
theorem perform_work (hs : w.StandsIn s stand) (hnobody : stand.listeners = []) {work : Option Background}
    {task : Option String} (he : Background.Ends work task) :
    ∃ w', (work.forM (runBackground env s)).perform w = (.ok (), w') ∧ w'.StandsIn s stand ∧
      OnlyAt s (task.toList.map ran) w w' := by
  induction he generalizing w with
  | nothing => exact ⟨w, rfl, hs, .refl s w⟩
  | task text => exact ⟨_, rfl, hs, .note s (ran text) w⟩
  | @completion inner task _ ih =>
    obtain ⟨v, hfire, hs', honly⟩ := hs.perform_fire env
    rw [hnobody] at hfire
    have hsame : { stand with listeners := [] } = stand := by rw [← hnobody]
    obtain ⟨w', hinner, hs'', honly'⟩ := ih (hsame ▸ hs')
    refine ⟨w', ?_, hs'', honly.trans honly'⟩
    show (runBackground env s (.completion inner)).perform w = _
    rw [runBackground_completion, perform_bind_ok hfire, hinner]

/-- **An adapter of a stand-in shows its response**, if there is one. -/
theorem shows {r : Option Response} (hs : w.StandsIn s ⟨r.map .response, waiting⟩) :
    Adapter.Shows ⟨s, .ofHandle, some .ofHandle⟩ r w := by
  obtain ⟨h, hh, hn, ha⟩ := hs
  have hlooked : (⟨r.map .response, waiting⟩ : Handle).looked = ⟨(r.map Response.seen).map .response, waiting⟩ := by
    cases r <;> rfl
  refine fun name => ⟨?_, fun hown => ?_⟩
  · have hseen := (Host.seen_standIn hn ha "headers").1
    rw [if_pos rfl, hlooked] at hseen
    have hread : Adapter.readBound (h.seen "headers") name = _ := Host.readBound_standIn hseen rfl
    unfold Act.readHeader
    rw [perform_bind_ok (perform_host hh)]
    show ((ofExcept (Adapter.readBound (h.seen "headers") name)).perform
      { w with hosts := w.hosts.set s (h.seen "headers") }).1 = _
    rw [perform_ofExcept]
    refine hread.trans ?_
    cases r <;> rfl
  · obtain ⟨hn', ha'⟩ := Host.seen_standIn hn ha name
    unfold Act.readField
    rw [perform_bind_ok (perform_look hh name), perform_ofExcept]
    by_cases hname : name = "headers"
    · rw [if_pos hname, hlooked] at hn'
      rw [Host.readField_standIn hn' ha' rfl hown, hname]
      cases r <;> rfl
    · rw [if_neg hname] at hn'
      exact Host.readField_standIn hn' ha' rfl hown

end World.StandsIn

namespace Handle

/-! ## Who can be told -/

namespace Tellable

theorem mono (h : Tellable env s ls w) (honly : OnlyAt s [] w w') : Tellable env s ls w' :=
  fun v stand hv => h v stand (honly.trans hv)

theorem nobody (env : Surroundings) (s : Nat) (w : World) : Tellable env s [] w :=
  fun v _ _ hs _ => ⟨v, rfl, .inl hs⟩

end Tellable

/-- Observers take note, one after the other. -/
theorem perform_notify_observers (env : Surroundings) (s : Nat) (tags : List String) (w : World) :
    ∃ w', ((tags.map .observer).forM (notify env [])).perform w = (.ok (), w') ∧ w'.hosts = w.hosts ∧
      OnlyAt s (tags.map heard) w w' := by
  induction tags generalizing w with
  | nil => exact ⟨w, rfl, rfl, .refl s w⟩
  | cons tag tags ih =>
    obtain ⟨w', hrest, hhosts, honly⟩ := ih { w with calls := w.calls ++ [⟨heard tag, w.hosts, w.lifecycles⟩] }
    exact ⟨w', hrest, hhosts, (OnlyAt.note s (heard tag) w).trans honly⟩

/-- **Observers can be told.** -/
theorem tellable_observers (env : Surroundings) (s : Nat) (tags : List String) (w : World) :
    Tellable env s (tags.map .observer) w := by
  intro v stand _ hs _
  obtain ⟨v', htold, hhosts, -⟩ := perform_notify_observers env s tags v
  refine ⟨v', htold, .inl ?_⟩
  unfold World.StandsIn at hs ⊢
  rwa [hhosts]

/-- **A log that waits can be told**, if its request takes the record back. -/
theorem tellable_lifecycle (henv : env.Harmless fs) (hw : w.Calls fs) {id : Nat} {l : Lifecycle} {p : Pipeline}
    (hl : w.lifecycles.get? id = some l) (hwaits : l.state = .awaitingCompletion)
    (hp : w.pipelines.get? l.pipeline = some p) (hne : l.request.target ≠ s) (htakes : w.Takes l.request.target) :
    Tellable env.watched s [.lifecycle id] w := by
  intro v stand honly hs _
  have hstill := honly.still
  have hv := hstill.quiet.calls hw
  have hl' : v.lifecycles.get? id = some l := (hstill.logs id).trans hl
  have hp' : v.pipelines.get? l.pipeline = some p := by rw [hstill.pipelines, hp]
  have htakes' := htakes.still hstill (by simpa using hne)
  obtain ⟨v', hcomplete, -⟩ := Lifecycle.perform_complete_of_takes henv hv hl' hwaits hp' htakes'
  have hintact : Intact s v v' := by
    have hleft : v' = _ :=
      congrArg Prod.snd (hcomplete.symm.trans (Lifecycle.perform_complete_of_waiting hl' hwaits hp'))
    rw [hleft]
    exact trans_of (Intact s) ((henv.frames s).released (henv.write s) (henv.send s) hv hp' id)
      (Intact.writeField hne (by decide) _ _)
  refine ⟨v', ?_, hintact.standIn stand hs⟩
  show (Lifecycle.complete env.watched id >>= fun _ => pure ()).perform v = _
  rw [perform_bind_ok hcomplete]
  rfl

namespace Told

variable {calls calls' : List (List Value)}

/-- Before the listeners are told the stand-in may change. -/
theorem after (h : Told env s ls calls w' w'') (honly : OnlyAt s [] w w') : Told env s ls calls w w'' := by
  obtain ⟨v, v', hbefore, htold, hafter⟩ := h
  exact ⟨v, v', honly.trans hbefore, htold, hafter⟩

/-- After the listeners have been told more may be noted. -/
theorem before (h : Told env s ls calls w w') (honly : OnlyAt s calls' w' w'') :
    Told env s ls (calls ++ calls') w w'' := by
  obtain ⟨v, v', hbefore, htold, hafter⟩ := h
  exact ⟨v, v', hbefore, htold, hafter.trans honly⟩

/-- Telling nobody goes unnoticed. -/
theorem nobody (h : Told env s [] calls w w') : OnlyAt s calls w w' := by
  obtain ⟨v, v', hbefore, htold, hafter⟩ := h
  cases htold
  exact hbefore.trans hafter

/-- **Of observers that are told there is one note each**, in order. -/
theorem observers {tags : List String} (h : Told env s (tags.map .observer) calls w w') :
    OnlyAt s (tags.map heard ++ calls) w w' := by
  obtain ⟨v, v', hbefore, htold, hafter⟩ := h
  obtain ⟨v'', htold', -, honly⟩ := perform_notify_observers env s tags v
  obtain rfl : v'' = v' := congrArg Prod.snd (htold'.symm.trans htold)
  exact hbefore.trans (honly.trans hafter)

end Told

/-! ## What moves keep -/

namespace Session

/-- The response is the one bound last, whose headers may have been looked at since. -/
def Has (b : Session) (r : Option Response) : Prop := r = b.last ∨ r = b.last.map Response.seen

theorem Has.seen {r : Option Response} (h : b.Has r) : b.Has (r.map Response.seen) := by
  rcases h with rfl | rfl
  · exact .inr rfl
  · rw [Option.map_map]
    exact .inr rfl

/-- What every move keeps, given who still waits and the tasks of the responses: the stand-in has the response bound
last, each work ends with its task, and with somebody waiting it first tells the stand-in. -/
structure Holds (s : Nat) (waiting : List Listener) (tasks : List (Option String)) (b : Session) (w : World) :
    Prop where
  standsIn : ∃ r, b.Has r ∧ w.StandsIn s ⟨r.map .response, waiting⟩
  ends : List.Forall₂ Background.Ends b.works tasks
  waits : waiting ≠ [] → ∀ work ∈ b.works, ∃ inner, work = some (.completion inner)

/-- What stands at one place of two lists, and may be replaced there. -/
theorem forall₂_at {α β : Type} {R : α → β → Prop} {as : List α} {bs : List β} (h : List.Forall₂ R as bs) {n : Nat}
    {a : α} (ha : as[n]? = some a) :
    ∃ b, bs[n]? = some b ∧ R a b ∧ ∀ a', R a' b → List.Forall₂ R (as.set n a') bs := by
  induction h generalizing n with
  | nil => cases ha
  | @cons a₀ b₀ as bs h₀ h ih =>
    cases n with
    | zero =>
      obtain rfl := Option.some.inj ha
      exact ⟨b₀, rfl, h₀, fun a' ha' => .cons ha' h⟩
    | succ n =>
      obtain ⟨b, hb, hab, hset⟩ := ih ha
      exact ⟨b, hb, hab, fun a' ha' => .cons h₀ (hset a' ha')⟩

variable {waiting : List Listener}

namespace Holds

/-- A response that is bound goes on with the same task at the end, after a telling if somebody waits. -/
theorem perform_bound (h : Holds s waiting tasks b w) {r : Response} {task : Option String}
    (hr : Background.Ends r.background task) :
    ∃ r' w', (bound s r).perform w = (.ok r', w') ∧ Background.Ends r'.background task ∧
      (waiting ≠ [] → ∃ inner, r'.background = some (.completion inner)) ∧
      w'.StandsIn s ⟨some (.response r'), waiting⟩ ∧ OnlyAt s [] w w' := by
  obtain ⟨_, -, hs⟩ := h.standsIn
  obtain ⟨w', hbound, hs', honly⟩ := hs.perform_bound r
  refine ⟨_, w', hbound, ?_, fun hwaits => ?_, hs', honly⟩
  · unfold handedBack
    split
    · exact hr
    · exact .completion hr
  · unfold handedBack
    rw [if_neg (by simpa using hwaits)]
    exact ⟨_, rfl⟩

/-- **A move that tells nobody** changes the stand-in at most, and everybody waits on. -/
theorem quiet_step (h : Holds s waiting tasks b w) (hm : m.tells tasks.length = false) (env : Surroundings) :
    ∃ b' w', (m.act env s b).perform w = (.ok b', w') ∧ Holds s waiting (m.own tasks) b' w' ∧ OnlyAt s [] w w' ∧
      m.runs tasks = [] := by
  cases m with
  | fire => cases hm
  | finish n =>
    have hn : tasks.length ≤ n := by simpa [Move.tells] using hm
    have hnothing : b.works[n]? = none := List.getElem?_eq_none (by rwa [h.ends.length_eq])
    refine ⟨b, w, ?_, h, .refl s w, ?_⟩
    · unfold Move.act
      dsimp only
      rw [hnothing]
      rfl
    · unfold Move.runs
      dsimp only
      rw [List.getElem?_eq_none hn]
      rfl
  | bind r task =>
    have hr : Background.Ends (task.map .task) task := by cases task <;> constructor
    obtain ⟨r', w', hbound, hends, hwaits, hs, honly⟩ :=
      h.perform_bound (r := { r with background := task.map .task }) hr
    refine ⟨⟨b.works ++ [r'.background], some r'⟩, w', perform_bind_ok hbound _,
      ⟨⟨some r', .inl rfl, hs⟩, ?_, fun hwaiting work hwork => ?_⟩, honly, rfl⟩
    · exact List.rel_append h.ends (.cons hends .nil)
    · rcases List.mem_append.1 hwork with hbefore | hnew
      · exact h.waits hwaiting work hbefore
      · rw [List.mem_singleton.1 hnew]
        exact hwaits hwaiting
  | rebind n r =>
    cases hwork : b.works[n]? with
    | none =>
      refine ⟨b, w, ?_, h, .refl s w, rfl⟩
      unfold Move.act
      dsimp only
      rw [hwork]
      rfl
    | some work =>
      obtain ⟨task, -, hr, hset⟩ := forall₂_at h.ends hwork
      obtain ⟨r', w', hbound, hends, hwaits, hs, honly⟩ := h.perform_bound (r := { r with background := work }) hr
      refine ⟨⟨b.works.set n r'.background, some r'⟩, w', ?_,
        ⟨⟨some r', .inl rfl, hs⟩, hset _ hends, fun hwaiting other hother => ?_⟩, honly, rfl⟩
      · unfold Move.act
        dsimp only
        rw [hwork]
        exact perform_bind_ok hbound _
      · rcases List.mem_or_eq_of_mem_set hother with hbefore | rfl
        · exact h.waits hwaiting other hbefore
        · exact hwaits hwaiting

/-- Telling the stand-in tells all who wait, and nobody waits any more. -/
theorem perform_fire (h : Holds s ls tasks b w) (hls : Tellable env s ls w) :
    ∃ v, (fire env s).perform w = (.ok (), v) ∧ Told env s ls [] w v ∧ Holds s [] tasks b v := by
  obtain ⟨r, hr, hs⟩ := h.standsIn
  obtain ⟨u, hfire, hs', honly⟩ := hs.perform_fire env
  obtain ⟨v, htold, hkept⟩ := hls u _ honly hs' rfl
  refine ⟨v, hfire.trans htold, ⟨u, v, honly, htold, .refl s v⟩, ?_, h.ends, nofun⟩
  rcases hkept with hsame | hlooked
  · exact ⟨r, hr, hsame⟩
  · refine ⟨_, hr.seen, ?_⟩
    cases r <;> exact hlooked

/-- When nobody waits, work comes down to the task at its end. -/
theorem perform_work (h : Holds s [] tasks b w) {work : Option Background} {task : Option String}
    (he : Background.Ends work task) :
    ∃ w', (work.forM (runBackground env s)).perform w = (.ok (), w') ∧ Holds s [] tasks b w' ∧
      OnlyAt s (task.toList.map ran) w w' := by
  obtain ⟨r, hr, hs⟩ := h.standsIn
  obtain ⟨w', hrun, hs', honly⟩ := hs.perform_work rfl he
  exact ⟨w', hrun, ⟨⟨r, hr, hs'⟩, h.ends, h.waits⟩, honly⟩

/-- **A move that tells somebody** tells all who wait, in order, and runs its task after that. -/
theorem telling_step (h : Holds s ls tasks b w) (hls : Tellable env s ls w) (hm : m.tells tasks.length = true) :
    ∃ w', (m.act env s b).perform w = (.ok b, w') ∧ Told env s ls ((m.runs tasks).map ran) w w' ∧
      Holds s [] (m.own tasks) b w' := by
  cases m with
  | fire =>
    obtain ⟨v, hfire, htold, h'⟩ := h.perform_fire hls
    exact ⟨v, perform_bind_ok hfire _, htold, h'⟩
  | bind r task => cases hm
  | rebind n r => cases hm
  | finish n =>
    have hn : n < b.works.length := by
      rw [h.ends.length_eq]
      simpa [Move.tells] using hm
    obtain ⟨work, hwork⟩ : ∃ work, b.works[n]? = some work := ⟨_, List.getElem?_eq_getElem hn⟩
    obtain ⟨task, htask, he, -⟩ := forall₂_at h.ends hwork
    have hruns : (Move.finish n).runs tasks = task.toList := by
      unfold Move.runs
      dsimp only
      rw [htask]
      rfl
    have hact {v w' : World} (hrun : (work.forM (runBackground env s)).perform v = (.ok (), w')) :
        ((Move.finish n).act env s b).perform v = (.ok b, w') := by
      unfold Move.act
      dsimp only
      rw [hwork]
      exact perform_bind_ok hrun _
    rw [hruns]
    by_cases hnobody : ls = []
    · subst hnobody
      obtain ⟨w', hrun, h', honly⟩ := h.perform_work he
      exact ⟨w', hact hrun, ⟨w, w, .refl s w, rfl, honly⟩, h'⟩
    · -- Somebody waits, so that the work begins with a telling.
      obtain ⟨inner, rfl⟩ := h.waits hnobody work (List.mem_of_getElem? hwork)
      obtain ⟨v, hfire, htold, hv⟩ := h.perform_fire hls
      cases he with
      | completion he =>
        obtain ⟨w', hrun, h', honly⟩ := hv.perform_work he
        refine ⟨w', hact ?_, htold.before honly, h'⟩
        show (runBackground env s (.completion inner)).perform w = _
        rw [runBackground_completion, perform_bind_ok hfire, hrun]

/-! ## Moves one after the other -/

/-- Once nobody waits, moves run their tasks and do nothing else but to the stand-in. -/
theorem run_of_nobody (h : Holds s [] tasks b w) (env : Surroundings) (ms : List Move) :
    ∃ b' w' tasks', (ms.foldlM (Move.act env s) b).perform w = (.ok b', w') ∧ Holds s [] tasks' b' w' ∧
      OnlyAt s ((runs tasks ms).map ran) w w' := by
  induction ms generalizing b w tasks with
  | nil => exact ⟨b, w, tasks, rfl, h, .refl s w⟩
  | cons m ms ih =>
    have hstep : ∃ b' w', (m.act env s b).perform w = (.ok b', w') ∧ Holds s [] (m.own tasks) b' w' ∧
        OnlyAt s ((m.runs tasks).map ran) w w' := by
      cases hm : m.tells tasks.length with
      | false =>
        obtain ⟨b', w', hact, h', honly, hruns⟩ := h.quiet_step hm env
        exact ⟨b', w', hact, h', by rwa [hruns]⟩
      | true =>
        obtain ⟨w', hact, htold, h'⟩ := h.telling_step (.nobody env s w) hm
        exact ⟨b, w', hact, h', htold.nobody⟩
    obtain ⟨b₁, w₁, hact, h₁, honly⟩ := hstep
    obtain ⟨b', w', tasks', hrest, h', honly'⟩ := ih h₁
    refine ⟨b', w', tasks', ?_, h', ?_⟩
    · rw [List.foldlM_cons, perform_bind_ok hact, hrest]
    · rw [runs, List.map_append]
      exact honly.trans honly'

/-- **Moves tell all who wait** with the first of them that can, and nobody as long as none of them can. -/
theorem run (h : Holds s ls tasks b w) (hls : Tellable env s ls w) (ms : List Move) :
    ∃ b' w', (ms.foldlM (Move.act env s) b).perform w = (.ok b', w') ∧
      (∃ tasks', Holds s (if tells tasks ms then [] else ls) tasks' b' w') ∧
      (tells tasks ms = false → OnlyAt s [] w w') ∧
      (tells tasks ms = true → Told env s ls ((runs tasks ms).map ran) w w') := by
  induction ms generalizing b w tasks with
  | nil => exact ⟨b, w, rfl, ⟨tasks, h⟩, fun _ => .refl s w, nofun⟩
  | cons m ms ih =>
    rw [List.foldlM_cons, runs, tells, List.map_append]
    cases hm : m.tells tasks.length with
    | false =>
      obtain ⟨b₁, w₁, hact, h₁, honly, hruns⟩ := h.quiet_step hm env
      obtain ⟨b', w', hrest, hholds, hquiet, htold⟩ := ih h₁ (hls.mono honly)
      rw [perform_bind_ok hact, hruns, Bool.false_or]
      exact ⟨b', w', hrest, hholds, fun hno => honly.trans (hquiet hno), fun hyes => (htold hyes).after honly⟩
    | true =>
      obtain ⟨w₁, hact, htold, h₁⟩ := h.telling_step hls hm
      obtain ⟨b', w', tasks', hrest, h', honly⟩ := h₁.run_of_nobody env ms
      rw [perform_bind_ok hact, Bool.true_or]
      exact ⟨b', w', hrest, ⟨tasks', h'⟩, nofun, fun _ => htold.before honly⟩

end Holds

end Session

/-- **A stand-in tells each of its listeners once.** Listeners register through an adapter; the response is bound and
bound again, the stand-in is told of the completion, and the work that follows its responses runs, all that in any order
and as often as one likes. For listeners that can be told (`Tellable`) none of it fails, and

- as long as no move can tell anybody, nobody is told and nothing but the stand-in has changed;
- otherwise the listeners have been told once, in the order of their registration. Before that nothing but the stand-in
  changed, and nothing came after it but the responses' own tasks: one runs each time the work following its response
  does;
- the adapter, made before all this, shows the response bound last, and nothing before there is one;
- the stand-in hands a further response back as it is if nobody waits any more, and else with the telling put before the
  work that follows it. -/
theorem session_tells_once (hs : w.StandsIn s {}) (hls : Tellable env s ls w) (ms : List Move) :
    ∃ a w₁ b w₂, (Act.adapter s).perform w = (.ok a, w) ∧
      (ls.forM fun l => discard (Act.onCompletion a l)).perform w = (.ok (), w₁) ∧
      (ms.foldlM (Move.act env s) {}).perform w₁ = (.ok b, w₂) ∧
      (tells [] ms = false → OnlyAt s [] w w₂) ∧
      (tells [] ms = true → Told env s ls ((runs [] ms).map ran) w w₂) ∧
      (∃ r, b.Has r ∧ a.Shows r w₂) ∧
      ∀ r, ((bound s r).perform w₂).1 = .ok (handedBack (if tells [] ms then [] else ls) r) := by
  obtain ⟨w₁, hregistered, hs₁, honly⟩ := hs.perform_registrations ls
  have hholds : Session.Holds s ls [] {} w₁ := ⟨⟨none, .inl rfl, hs₁⟩, .nil, nofun⟩
  obtain ⟨b, w₂, hrun, ⟨tasks', h⟩, hquiet, htold⟩ := hholds.run (hls.mono honly) ms
  obtain ⟨r, hr, hs₂⟩ := h.standsIn
  refine ⟨_, w₁, b, w₂, hs.perform_adapter, hregistered, hrun, fun hno => honly.trans (hquiet hno),
    fun hyes => (htold hyes).after honly, ⟨r, hr, hs₂.shows⟩, fun r' => ?_⟩
  obtain ⟨w₃, hbound, -⟩ := hs₂.perform_bound r'
  rw [hbound]

/-- An application with a stand-in for a response. -/
def expecting : World := { hosts := ⟨[Host.ofHandle {}]⟩ }

/-- Two observers of a response that is bound twice and has a task: they take note once, in order, and the task runs
with each run of what follows the response, which comes twice. -/
theorem session_tells_once_observers :
    let ls : List Listener := [.observer "first", .observer "second"]
    let r : Response := { status := 200, headers := [("x-request", "1")] }
    let ms : List Move := [.bind r (some "tidy"), .rebind 0 r, .finish 0, .fire, .bind r none, .finish 0, .finish 1]
    ∃ a w₁ b w₂, (Act.adapter 0).perform expecting = (.ok a, expecting) ∧
      (ls.forM fun l => discard (Act.onCompletion a l)).perform expecting = (.ok (), w₁) ∧
      (ms.foldlM (Move.act Application.surroundings 0) {}).perform w₁ = (.ok b, w₂) ∧
      OnlyAt 0 [heard "first", heard "second", ran "tidy", ran "tidy"] expecting w₂ ∧
      ∃ r, b.Has r ∧ a.Shows r w₂ := by
  intro ls r ms
  have hs : expecting.StandsIn 0 {} := ⟨_, rfl, rfl, rfl⟩
  obtain ⟨a, w₁, b, w₂, hmade, hregistered, hrun, -, htold, hshows, -⟩ :=
    session_tells_once hs (tellable_observers Application.surroundings 0 ["first", "second"] expecting) ms
  exact ⟨a, w₁, b, w₂, hmade, hregistered, hrun, (htold rfl).observers, hshows⟩

end Handle

end ActivityLog
