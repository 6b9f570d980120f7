import ActivityLog.Proofs.Core.Aside
import ActivityLog.Proofs.Host.Local
import ActivityLog.Proofs.Lifecycle.Completion

/-!
# Functions that keep to their request

A field function is of no matter to other requests if it leaves the record and all that is not its request's alone, and
gives what the record and the request's two hosts make it give (`Surroundings.Secluded`). Then arrivals and completions
are confined to their own hosts and to their own log (`Pipeline.confined_start`, `Lifecycle.confined_complete`), and
what an arrival leaves of its request and its response is told by the pass alone (`Pipeline.Begun`).
-/

namespace ActivityLog

open Act

/-- The request and the response are the same in two states. -/
structure SameHosts (request response : Nat) (w w' : World) : Prop where
  request : w.hosts.get? request = w'.hosts.get? request
  response : w.hosts.get? response = w'.hosts.get? response

/-- The response is the same in two states, and so is the request as far as pipelines and cores do not touch it. -/
structure AlikeHosts (request response : Nat) (w w' : World) : Prop where
  request : w.untouched request = w'.untouched request
  response : w.hosts.get? response = w'.hosts.get? response

/-- What functions of `fs` give and how they leave the hosts depends on the record and on the hosts only, as far as `S`
relates these. -/
def Surroundings.Reads (env : Surroundings) (fs : FieldFunction → Prop) (S : Nat → Nat → World → World → Prop) : Prop :=
  ∀ q r, q ≠ r → ∀ log log' f, fs f → ∀ record w w', S q r w w' →
    (env.call ⟨q, r, log⟩ f record w).1 = (env.call ⟨q, r, log'⟩ f record w').1 ∧
      S q r (env.call ⟨q, r, log⟩ f record w).2.2 (env.call ⟨q, r, log'⟩ f record w').2.2

/-- Cores are those of an application. Functions of `fs` do not modify the record, depend on nothing but the record and
what the hosts have that neither pipelines nor cores write, and leave alone all that is of matter to other requests. -/
structure Surroundings.Secluded (env : Surroundings) (fs : FieldFunction → Prop) : Prop where
  core : env.core = Standard.core
  record : ∀ parties f, fs f → ∀ record w, (env.call parties f record w).2.1 = record
  same : env.Reads fs SameHosts
  alike : env.Reads fs AlikeHosts
  still : ∀ parties f, fs f → ∀ record w,
    Still { hosts := [parties.request, parties.response] } w (env.call parties f record w).2.2

/-- What the arrival and the completion of a request may touch. -/
def Lifecycle.scope (l : Lifecycle) (id : Nat) : Scope :=
  { hosts := [l.request.target, l.response.target], log := some id }

variable {env : Surroundings} {fs : FieldFunction → Prop} {w w' : World} {id : Nat} {l : Lifecycle} {p : Pipeline}
  {phase : Phase}

namespace Surroundings.Secluded

theorem core_watched (h : env.Secluded fs) (id : Nat) : env.watched.core id = (Standard.core id).watched :=
  Standard.core_watched h.core id

theorem discreet (h : env.Secluded fs) : env.Discreet fs :=
  Standard.discreet h.core fun parties f hf record w => (h.still parties f hf record w).quiet

/-! ## Passes -/

theorem surface (h : env.Secluded fs) {ds : List Descriptor} (hds : ∀ f ∈ functionsOf ds, fs f) (w : World) :
    (env.surface l.request l.response (some id)).Keeps (Confined (l.scope id) w) (functionsOf ds) where
  header phase _ s hs := by
    refine hs.trans (Confined.host ?_ s _)
    cases phase with
    | pre => exact List.mem_cons_self
    | post => exact List.mem_cons_of_mem _ List.mem_cons_self
  field phase _ s hs := by
    refine hs.trans (Confined.host ?_ s _)
    cases phase with
    | pre => exact List.mem_cons_self
    | post => exact List.mem_cons_of_mem _ List.mem_cons_self
  call f hf record s hs := by
    have hcall := h.still ⟨l.request.target, l.response.target, some id⟩ f (hds f hf) record (s.withRecord id record)
    exact hs.trans ((Confined.withRecord rfl s record).trans (hcall.widen (List.Subset.refl _)))
  heard s hs := hs.trans (Confined.diagnostics s _)

theorem afterPass (h : env.Secluded fs) (hds : ∀ f ∈ functionsOf (p.config.phase phase), fs f) :
    Confined (l.scope id) w (l.afterPass env id phase p.config w) :=
  Confined.trans ((h.surface hds w).resolvePass phase l.record (refl_of (Confined (l.scope id)) w))
    (Confined.diagnostics _ _)

/-- **A pass of a request is confined** to its hosts and to its log. -/
theorem resolved (h : env.Secluded fs) (phase : Phase) (hw : w.Calls fs) (hl : w.lifecycles.get? id = some l)
    (hp : w.pipelines.get? l.pipeline = some p) :
    Confined (l.scope id) w (l.resolved env id phase p w) ∧ (l.resolved env id phase p w).lifecycles.get? id =
      some { l with record := (l.passed env id phase p.config w).record, state := Lifecycle.resolvedState phase } := by
  have hds := hw _ p hp phase
  have hpass : Quiet fs none w (l.afterPass env id phase p.config w) := h.discreet.afterPass hds l w
  obtain ⟨record, state, hl', -⟩ := hpass.lifecycles id l hl
  exact ⟨(h.afterPass hds).trans (Confined.setLifecycle rfl _ _), Table.get?_set_self hl' _⟩

end Surroundings.Secluded

/-! ## Arrivals -/

namespace Pipeline

/-- What happens to a request between its pass and its waiting concerns the request alone, and only touches it. -/
theorem still_arrive (h : env.Secluded fs) (hw : w.Calls fs) (hl : w.lifecycles.get? id = some l)
    (hp : w.pipelines.get? l.pipeline = some p) :
    Still { hosts := [l.request.target] } (l.resolved env id .pre p w) ((arrive env.watched id).perform w).2 ∧
      ((w.overridesOf? p.core).isSome →
        Undisturbed l.request.target (l.resolved env id .pre p w) ((arrive env.watched id).perform w).2) := by
  obtain ⟨hpass, hrow⟩ := h.resolved .pre hw hl hp
  have hpipelines := hpass.pipelines
  have hoverrides := hpass.overrides p.core (Option.some_ne_none _).symm
  unfold arrive
  have hresolved : (Lifecycle.resolvePre env.watched id).perform w = (.ok (), l.resolved env id .pre p w) :=
    Lifecycle.perform_resolvePre hl hp
  rw [perform_bind_ok hresolved, perform_bind_ok (perform_lifecycle hrow)]
  generalize l.resolved env id .pre p w = w₁ at hrow hpipelines hoverrides ⊢
  have hstore : Still { hosts := [l.request.target] } w₁
      ((writeField l.request.target recordField (.shared (.record id) false)).perform w₁).2 :=
    Still.writeField (List.mem_singleton.2 rfl) _ _ w₁
  have htouch : Undisturbed l.request.target w₁
      ((writeField l.request.target recordField (.shared (.record id) false)).perform w₁).2 :=
    Undisturbed.writeField (by decide) _ w₁
  rcases hr : (writeField l.request.target recordField (.shared (.record id) false)).perform w₁ with ⟨f | u, w₂⟩ <;>
    rw [hr] at hstore htouch
  · rw [perform_bind_error hr]
    exact ⟨hstore, fun _ => htouch⟩
  · have hp₂ : w₂.pipelines.get? l.pipeline = some p := by rw [hstore.pipelines, hpipelines, hp]
    rw [perform_bind_ok hr, perform_bind_ok (perform_pipeline hp₂), h.core_watched]
    refine ⟨trans_of (Still _) hstore (Standard.still_bindLogFunctions p.core l.request.target w₂), fun hs => ?_⟩
    refine trans_of (Undisturbed _) htouch (Standard.undisturbed_bindLogFunctions p.core ?_)
    rwa [hstore.overrides p.core (Option.some_ne_none _).symm, hoverrides]

/-- What an arrival leaves behind: of the log the record that the pass has made, of the response what registering with
it makes of it after the pass, and of the request what the pass has made of it as far as it is not touched. -/
structure Begun (env : Surroundings) (id : Nat) (p : Pipeline) (l : Lifecycle) (w w' : World) : Prop where
  confined : Confined (l.scope id) w w'
  log : ∃ state, w'.lifecycles.get? id = some { l with record := (l.passed env id .pre p.config w).record, state }
  response : l.request.target ≠ l.response.target → w'.hosts.get? l.response.target =
    ((onCompletion l.response (.lifecycle id)).perform (l.resolved env id .pre p w)).2.hosts.get? l.response.target
  request : l.request.target ≠ l.response.target → (w.overridesOf? p.core).isSome →
    Undisturbed l.request.target (l.resolved env id .pre p w) w'

/-- **An arrival leaves behind what its pass makes of it**, and if it is successful, so is registering with the
response. -/
theorem begun (h : env.Secluded fs) (hw : w.Calls fs) (hl : w.lifecycles.get? id = some l)
    (hp : w.pipelines.get? l.pipeline = some p) :
    Begun env id p l w ((begin env.watched id).perform w).2 ∧
      (l.request.target ≠ l.response.target → ∀ n, ((begin env.watched id).perform w).1 = .ok n →
        ∃ b, ((onCompletion l.response (.lifecycle id)).perform (l.resolved env id .pre p w)).1 = .ok b) := by
  obtain ⟨hpass, hrow⟩ := h.resolved .pre hw hl hp
  obtain ⟨hstill, htouch⟩ := still_arrive h hw hl hp
  obtain ⟨ds, hafter⟩ := (arrive env.watched id).after_eq .preResolutionFailed w
  rw [perform_begin, hafter]
  have hstill : Still { hosts := [l.request.target] } (l.resolved env id .pre p w)
      { ((arrive env.watched id).perform w).2 with diagnostics := ds } :=
    trans_of (Still _) hstill (Still.diagnostics _ ds)
  have htouch (ho : (w.overridesOf? p.core).isSome) : Undisturbed l.request.target
      (l.resolved env id .pre p w) { ((arrive env.watched id).perform w).2 with diagnostics := ds } := htouch ho
  generalize ({ ((arrive env.watched id).perform w).2 with diagnostics := ds } : World) = w₂ at hstill htouch
  have hrow₂ := (hstill.logs id).trans hrow
  have hreg : Still { hosts := [l.response.target] } w₂ ((onCompletion l.response (.lifecycle id)).perform w₂).2 :=
    Still.onCompletion (List.mem_singleton.2 rfl) _ w₂
  have hlocal (hne : l.request.target ≠ l.response.target) :=
    Local.onCompletion rfl (.lifecycle id) w₂ _ (hstill.hosts _ (by simpa using hne.symm))
  have hscope : Confined (l.scope id) w w₂ :=
    hpass.trans (hstill.toConfined.widen (by simp [Lifecycle.scope]))
  unfold Lifecycle.awaitCompletion
  rw [bind_assoc, perform_bind_ok (perform_lifecycle hrow₂)]
  rcases hr : (onCompletion l.response (.lifecycle id)).perform w₂ with ⟨f | b, w₃⟩ <;> rw [hr] at hreg hlocal
  all_goals
    have hscope₃ : Confined (l.scope id) w w₃ :=
      hscope.trans (hreg.toConfined.widen (by simp [Lifecycle.scope]))
    have hrow₃ := (hreg.logs id).trans hrow₂
    have hrequest (hne : l.request.target ≠ l.response.target) (ho : (w.overridesOf? p.core).isSome) :
        Undisturbed l.request.target (l.resolved env id .pre p w) w₃ :=
      trans_of (Undisturbed _) (htouch ho) (Undisturbed.of_hosts (hreg.hosts _ (by simpa using hne)))
  · rw [bind_assoc, perform_bind_error hr]
    exact ⟨⟨hscope₃, ⟨_, hrow₃⟩, fun hne => (hlocal hne).2, hrequest⟩, fun _ n hn => by cases hn⟩
  · rw [bind_assoc, perform_bind_ok hr, bind_assoc, perform_bind_ok (perform_lifecycle hrow₃)]
    refine ⟨⟨hscope₃.trans (Confined.setLifecycle rfl w₃ _), ⟨_, Table.get?_set_self hrow₃ _⟩,
      fun hne => (hlocal hne).2, hrequest⟩, fun hne _ _ => ⟨b, (hlocal hne).1.symm⟩⟩

/-- An arrival that is seen through adapters is confined to their hosts and to the new log, which is of these. -/
theorem confined_startWith (h : env.Secluded fs) (hw : w.Calls fs) (pipeline : Nat) (request response : Adapter) :
    Confined { hosts := [request.target, response.target], log := some w.lifecycles.next } w
        ((startWith env.watched pipeline request response).perform w).2 ∧
      ∀ l, ((startWith env.watched pipeline request response).perform w).2.lifecycles.get? w.lifecycles.next = some l →
        l.request = request ∧ l.response = response := by
  have hnew := w.lifecycles.get?_next
  have hinit (c : Nat) : Keeps (Still {}) (env.watched.core c).initLog := h.core_watched c ▸ Standard.still_initLog c
  rcases startWith_cases hinit pipeline request response w with ⟨-, hkept⟩ | ⟨p, record, w₁, hp, hkept, hbegin⟩
  · refine ⟨hkept.widen (List.nil_subset _), fun l hl => ?_⟩
    rw [hkept.logs, hnew] at hl
    cases hl
  · rw [hbegin, ← hkept.lifecycles_eq]
    let l : Lifecycle := ⟨pipeline, request, response, record, .created⟩
    let w₂ : World := { w₁ with lifecycles := w₁.lifecycles.add l }
    have hl : w₂.lifecycles.get? w₁.lifecycles.next = some l := by rw [Table.get?_add, if_pos rfl]
    have hp₂ : w₂.pipelines.get? pipeline = some p := by rw [← hp, ← hkept.pipelines]
    have hw₂ : w₂.Calls fs := hkept.quiet.calls hw
    obtain ⟨⟨hconfined, ⟨state, hlog⟩, -, -⟩, -⟩ := begun h hw₂ hl hp₂
    refine ⟨(hkept.widen (List.nil_subset _)).trans ((Confined.addLifecycle rfl l).trans hconfined), ?_⟩
    intro l' hl'
    obtain rfl := Option.some.inj (hlog.symm.trans hl')
    exact ⟨rfl, rfl⟩

/-- **An arrival is confined** to its request, its response and the new log, which is of these. -/
theorem confined_start (h : env.Secluded fs) (hw : w.Calls fs) (pipeline request response : Nat) :
    Confined { hosts := [request, response], log := some w.lifecycles.next } w
        ((start env.watched pipeline request response).perform w).2 ∧
      ∀ l, ((start env.watched pipeline request response).perform w).2.lifecycles.get? w.lifecycles.next = some l →
        l.request.target = request ∧ l.response.target = response := by
  have hadapter {n : Nat} (hn : n ∈ [request, response]) : Keeps (Still { hosts := [request, response] }) (adapter n) :=
    Still.adapter hn
  rcases start_cases (hadapter List.mem_cons_self) (hadapter (List.mem_cons_of_mem _ List.mem_cons_self)) env.watched
    pipeline w with ⟨-, hkept⟩ | ⟨a, b, _, w₂, -, -, rfl, rfl, hkept, hstart⟩
  · refine ⟨hkept.toConfined.widen (List.Subset.refl _), fun l hl => ?_⟩
    rw [hkept.logs, Table.get?_next] at hl
    cases hl
  · rw [hstart, ← hkept.lifecycles_eq]
    obtain ⟨hconfined, hlog⟩ := confined_startWith h (hkept.quiet.calls hw) pipeline a b
    refine ⟨Confined.trans (hkept.widen (List.Subset.refl _)) hconfined, fun l hl => ?_⟩
    obtain ⟨hrequest, hresponse⟩ := hlog l hl
    exact ⟨congrArg _ hrequest, congrArg _ hresponse⟩

end Pipeline

/-! ## Completions -/

namespace Lifecycle

/-- Handing a record over is confined to the log that it belongs to. -/
theorem confined_emit {s : Scope} (h : env.Secluded fs) (hid : s.log = some id) (record : Record) (w : World) :
    Confined s w ((emit env.watched p (some id) record).run w).2 := by
  rw [run_emit, h.core_watched]
  have hwrite : Still s (w.noted (.overriding record))
      ((Standard.core p.core).watched.writeStaticFields record w).2.2 :=
    Standard.still_writeStaticFields p.core record (w.noted (.overriding record))
  rcases hr : (Standard.core p.core).watched.writeStaticFields record w with ⟨f | u, record', w₁⟩ <;> rw [hr] at hwrite
  all_goals
    have hrecord : Confined s w (w₁.withRecord id record') :=
      (Confined.noted w _).trans (hwrite.toConfined.trans (Confined.withRecord hid w₁ record'))
  · exact hrecord
  · have hsend : Still s ((w₁.withRecord id record').noted (.sending p.level record'))
        (((Standard.core p.core).watched.sendLog p.level record').perform (w₁.withRecord id record')).2 :=
      Standard.still_sendLog p.core p.level record' _
    exact hrecord.trans ((Confined.noted _ _).trans hsend.toConfined)

theorem confined_released (h : env.Secluded fs) (hw : w.Calls fs) (hl : w.lifecycles.get? id = some l)
    (hp : w.pipelines.get? l.pipeline = some p) : Confined (l.scope id) w (l.released env.watched id p w) := by
  have hres : Confined (l.scope id) w (l.resolved env.watched id .post p w) := (h.resolved .post hw hl hp).1
  unfold released
  dsimp only
  have hemit : Confined (l.scope id) (l.resolved env.watched id .post p w)
      ((emit env.watched p (some id) (l.passed env.watched id .post p.config w).record).run
        (l.resolved env.watched id .post p w)).2 := confined_emit h rfl _ _
  generalize (emit env.watched p (some id) _).run (l.resolved env.watched id .post p w) = out at hemit ⊢
  exact hres.trans (hemit.trans ((Confined.setLifecycle rfl out.2 _).trans (Confined.diagnostics _ _)))

/-- **A completion is confined** to the hosts of its log and to the log. -/
theorem confined_complete (h : env.Secluded fs) (hw : w.Calls fs) (hl : w.lifecycles.get? id = some l) :
    Confined (l.scope id) w ((complete env.watched id).perform w).2 := by
  refine complete_cases id (refl_of (Confined _) w) (Confined.diagnostics w) fun l' p hl' hp => ?_
  obtain rfl := Option.some.inj (hl.symm.trans hl')
  refine (confined_released h hw hl hp).trans ?_
  exact Keeps.writeField (Confined.host List.mem_cons_self) Confined.diagnostics _ _ _

end Lifecycle

end ActivityLog
