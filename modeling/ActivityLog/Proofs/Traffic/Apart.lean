import ActivityLog.Proofs.Traffic

/-!
# Requests apart from each other

With functions that keep to their request an event is confined to what it is about (`Event.step_confined`). So hosts
that no event is about stay as they are along a run, and so does the log that they belong to, as long as it is not
completed (`run_apart`).
-/

namespace ActivityLog

namespace Event

/-- The hosts of an arrival. -/
def hosts : Event → List Nat
  | .start _ request response => [request, response]
  | _ => []

/-- What an event may touch. -/
def scope (w : World) : Event → Scope
  | .start _ request response => { hosts := [request, response], log := some w.lifecycles.next }
  | .completion id _ =>
    match w.lifecycles.get? id with
    | some l => l.scope id
    | none => {}
  | .override core _ _ => { core := some core }
  | _ => {}

section Completion

variable {w : World} {id n : Nat} {arguments : List Value}

theorem scope_completion {l : Lifecycle} (hl : w.lifecycles.get? id = some l) :
    scope w (.completion id arguments) = l.scope id := by
  unfold scope
  simp only [hl]

theorem scope_completion_of_none (hl : w.lifecycles.get? id = none) : scope w (.completion id arguments) = {} := by
  unfold scope
  simp only [hl]

/-- What is in the scope of a completion belongs to its log. -/
theorem scope_completion_cases : scope w (.completion id arguments) = {} ∨
    ∃ l, w.lifecycles.get? id = some l ∧ scope w (.completion id arguments) = l.scope id := by
  cases hl : w.lifecycles.get? id with
  | none => exact .inl (scope_completion_of_none hl)
  | some l => exact .inr ⟨l, rfl, scope_completion hl⟩

theorem log_scope_completion (h : (scope w (.completion id arguments)).log = some n) :
    id = n ∧ ∃ l, w.lifecycles.get? id = some l := by
  rcases scope_completion_cases with hs | ⟨l, hl, hs⟩ <;> rw [hs] at h <;> cases h
  exact ⟨rfl, l, hl⟩

theorem mem_hosts_scope_completion (h : n ∈ (scope w (.completion id arguments)).hosts) :
    ∃ l, w.lifecycles.get? id = some l ∧ n ∈ [l.request.target, l.response.target] := by
  rcases scope_completion_cases with hs | ⟨l, hl, hs⟩ <;> rw [hs] at h
  · exact absurd h List.not_mem_nil
  · exact ⟨l, hl, h⟩

theorem core_scope_completion : (scope w (.completion id arguments)).core = none := by
  rcases scope_completion_cases with hs | ⟨l, -, hs⟩ <;> rw [hs]
  rfl

end Completion

/-- The event is an arrival of none of the hosts, and does not complete the log. -/
structure Spares (hosts : List Nat) (own : Option Nat) (e : Event) : Prop where
  hosts : ∀ n ∈ e.hosts, n ∉ hosts
  completed : ∀ id, own = some id → e.completed? ≠ some id

end Event

/-- No log but one is of any of the hosts. -/
def World.Apart (hosts : List Nat) (own : Option Nat) (w : World) : Prop :=
  ∀ n l, own ≠ some n → w.lifecycles.get? n = some l → l.request.target ∉ hosts ∧ l.response.target ∉ hosts

variable {env : Surroundings} {fs : FieldFunction → Prop} {w w' : World} {hosts : List Nat} {own : Option Nat}

/-- Something is asked of a core. -/
def Event.asksCore : Event → Bool
  | .start _ _ _ | .completion _ _ => false
  | _ => true

/-- What is asked of a core is of matter to its overrides at most. -/
theorem Event.step_still (hcore : env.core = Standard.core) {e : Event} (he : e.asksCore = true) (w : World) :
    Still (e.scope w) w (e.step env.watched w) := by
  cases e with
  | start | completion => cases he
  | override core name value =>
    show Still _ w (((env.watched.core core).overrideField name value).perform w).2
    rw [Standard.core_watched hcore]
    exact Standard.still_overrideField core name value w
  | setLevel core level =>
    show Still _ w (((env.watched.core core).setLoggingLevel level).perform w).2
    rw [Standard.core_watched hcore]
    exact Standard.still_setLoggingLevel core level w
  | setPattern core pattern =>
    show Still _ w (((env.watched.core core).setLogPattern pattern).perform w).2
    rw [Standard.core_watched hcore]
    exact Standard.still_setLogPattern core pattern w
  | message core level text fields =>
    show Still _ w (((env.watched.core core).logMessage level text fields).perform w).2
    rw [Standard.core_watched hcore]
    exact Standard.still_logMessage core level text fields w

/-- **An event is confined to what it is about.** -/
theorem Event.step_confined (h : env.Secluded fs) (hw : w.Calls fs) (e : Event) :
    Confined (e.scope w) w (e.step env.watched w) := by
  cases e with
  | start pipeline request response => exact (Pipeline.confined_start h hw pipeline request response).1
  | completion id arguments =>
    show Confined _ w ((Lifecycle.complete env.watched id).perform w).2
    cases hl : w.lifecycles.get? id with
    | none =>
      obtain ⟨f, hf⟩ := Act.perform_lifecycle_none hl
      unfold Lifecycle.complete
      rw [Act.perform_bind_error hf]
      exact refl_of (Confined _) w
    | some l =>
      rw [scope_completion hl]
      exact Lifecycle.confined_complete h hw hl
  | _ => exact (step_still h.core rfl w).toConfined

/-- What an event that spares some hosts and their log leaves of them: all. -/
structure Untroubled (hosts : List Nat) (own : Option Nat) (w w' : World) : Prop where
  hosts : ∀ n ∈ hosts, w'.hosts.get? n = w.hosts.get? n
  log : ∀ id, own = some id → w'.lifecycles.get? id = w.lifecycles.get? id
  pipelines : w'.pipelines = w.pipelines

namespace Event

/-- The log that an event is about is not the own one. -/
theorem Spares.log {e : Event} (he : e.Spares hosts own) {id : Nat} (hid : own = some id)
    (hthere : (w.lifecycles.get? id).isSome) : (e.scope w).log ≠ some id := by
  cases e with
  | start pipeline request response =>
    rintro ⟨rfl⟩
    rw [Table.get?_next] at hthere
    cases hthere
  | completion n arguments =>
    intro hn
    obtain ⟨rfl, -⟩ := log_scope_completion hn
    exact he.completed n hid rfl
  | _ =>
    intro hn
    cases hn

/-- The hosts that an event is about are not among those that are kept apart. -/
theorem Spares.not_mem_hosts {e : Event} (he : e.Spares hosts own) (hapart : w.Apart hosts own) {n : Nat}
    (hn : n ∈ hosts) : n ∉ (e.scope w).hosts := by
  cases e with
  | start pipeline request response => exact fun hs => he.hosts n hs hn
  | completion id arguments =>
    intro hs
    obtain ⟨l, hl, hs⟩ := mem_hosts_scope_completion hs
    obtain ⟨hrequest, hresponse⟩ := hapart id l (fun hid => he.completed id hid rfl) hl
    rcases List.mem_cons.1 hs with rfl | hs
    · exact hrequest hn
    · obtain rfl := List.mem_singleton.1 hs
      exact hresponse hn
  | _ => exact List.not_mem_nil

/-- A log that is there after an event only is of the hosts that arrived. -/
theorem targets_of_new (h : env.Secluded fs) (hw : w.Calls fs) {e : Event} {n : Nat} {l : Lifecycle}
    (hnew : w.lifecycles.get? n = none) (hl : (e.step env.watched w).lifecycles.get? n = some l) :
    l.request.target ∈ e.hosts ∧ l.response.target ∈ e.hosts := by
  have hlog : (e.scope w).log = some n := by
    refine Decidable.byContradiction fun hn => ?_
    rw [(e.step_confined h hw).lifecycles n hn, hnew] at hl
    cases hl
  cases e with
  | start pipeline request response =>
    obtain rfl : w.lifecycles.next = n := Option.some.inj hlog
    obtain ⟨rfl, rfl⟩ := (Pipeline.confined_start h hw pipeline request response).2 l hl
    exact ⟨List.mem_cons_self, List.mem_cons_of_mem _ List.mem_cons_self⟩
  | completion id arguments =>
    obtain ⟨rfl, l₀, hl₀⟩ := log_scope_completion hlog
    rw [hnew] at hl₀
    cases hl₀
  | _ => cases hlog

/-- An event that spares some hosts and their log leaves them alone and apart. -/
theorem step_apart (h : env.Secluded fs) (hw : w.Calls fs) {e : Event} (he : e.Spares hosts own)
    (hapart : w.Apart hosts own) (hown : ∀ id, own = some id → (w.lifecycles.get? id).isSome) :
    Untroubled hosts own w (e.step env.watched w) ∧ (e.step env.watched w).Apart hosts own := by
  have hstep := e.step_confined h hw
  obtain ⟨hsteady, -⟩ := e.step_steady h.discreet hw
  refine ⟨⟨fun n hn => hstep.hosts n (he.not_mem_hosts hapart hn),
    fun id hid => hstep.lifecycles id (he.log hid (hown id hid)), hstep.pipelines⟩, fun n l' hn hl' => ?_⟩
  cases hl : w.lifecycles.get? n with
  | some l =>
    obtain ⟨record, state, rfl⟩ := hsteady.lifecycle_eq hl hl'
    exact hapart n l hn hl
  | none =>
    obtain ⟨hrequest, hresponse⟩ := targets_of_new h hw hl hl'
    exact ⟨he.hosts _ hrequest, he.hosts _ hresponse⟩

end Event

/-- **Along a run that spares some hosts and their log these stay as they are.** -/
theorem run_apart (h : env.Secluded fs) (hw : w.Calls fs) {es : List Event} (hes : ∀ e ∈ es, e.Spares hosts own)
    (hapart : w.Apart hosts own) (hown : ∀ id, own = some id → (w.lifecycles.get? id).isSome) :
    Untroubled hosts own w (run env.watched es w) ∧ (run env.watched es w).Apart hosts own := by
  induction es generalizing w with
  | nil => exact ⟨⟨fun _ _ => rfl, fun _ _ => rfl, rfl⟩, hapart⟩
  | cons e es ih =>
    obtain ⟨⟨hhosts, hlog, hpipelines⟩, hapart'⟩ := Event.step_apart h hw (hes e List.mem_cons_self) hapart hown
    obtain ⟨⟨hhosts', hlog', hpipelines'⟩, hrest⟩ := ih ((e.step_steady h.discreet hw).1.calls hw)
      (fun x hx => hes x (List.mem_cons_of_mem _ hx)) hapart' fun id hid => by rw [hlog id hid]; exact hown id hid
    exact ⟨⟨fun n hn => (hhosts' n hn).trans (hhosts n hn), fun id hid => (hlog' id hid).trans (hlog id hid),
      hpipelines'.trans hpipelines⟩, hrest⟩

end ActivityLog
