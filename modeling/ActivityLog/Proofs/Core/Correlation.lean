import ActivityLog.Proofs.Builtin
import ActivityLog.Proofs.Core.Aside
import ActivityLog.Proofs.Lifecycle.Arrival
import ActivityLog.Proofs.Logging.Event

/-!
# One correlation id for a request

With the structured core and the built-in fields a request gets a correlation id twice: the pass of its arrival records
one (`Pipeline.recorded_correlationId`), and then the core starts a context with one (`StructuredCore.contextId_of_bound`).
`Pipeline.start_sharesId_iff` says when they are the same: if the request gives the record back that is stored on it, and
its header is missing or a text that is not empty.
-/

namespace ActivityLog

open Act OrderedMap Host

/-! ## The context of a request -/

theorem Contexts.current?_activate (cs : Contexts) (c : RequestContext) : (cs.activate c).current? = some c :=
  (Table.get?_add _ _ _).trans (if_pos rfl)

/-- The same contexts. -/
def SameContexts (w w' : World) : Prop := w'.contexts = w.contexts

instance : IsPreorder World SameContexts where
  refl _ := rfl
  trans _ _ _ h h' := Eq.trans h' h

/-- A context is started with the id that is given, or with the next fresh one. -/
theorem Act.of_perform_startRequest {w w' : World} {given : Value} {id : Nat}
    (h : (startRequest given {}).perform w = (.ok id, w')) : ∃ s : String,
      w'.contexts.current?.map (·.correlationId) = some (.text s) ∧
      if (w.reveal given).truthy then (w.reveal given).written = .ok s else s = World.idText (w.serial + 1) := by
  unfold startRequest at h
  obtain ⟨_, v, hparameters, h⟩ := of_perform_bind_eq h
  rw [perform_ofExcept] at hparameters
  obtain rfl : w = v := congrArg Prod.snd hparameters
  have hdraw : drawId.perform w = (.ok (World.idText (w.serial + 1)), { w with serial := w.serial + 1 }) := rfl
  rw [perform_bind_ok hdraw, perform_bind_ok (perform_get _)] at h
  have hreveal : World.reveal { w with serial := w.serial + 1 } = w.reveal := World.reveal_congr rfl rfl
  have hset (s : String) : ((do
      set { w with
        serial := w.serial + 1
        contexts := w.contexts.activate { correlationId := .text s, attributes := {} } }
      return w.contexts.table.next : Act Nat).perform { w with serial := w.serial + 1 }) = (.ok id, w') →
      w'.contexts.current?.map (·.correlationId) = some (.text s) := by
    intro hs
    obtain rfl := congrArg Prod.snd hs
    exact congrArg _ (Contexts.current?_activate _ _)
  dsimp only at h
  rw [hreveal] at h
  split at h
  · next htruthy =>
    obtain ⟨s, v, hs, h⟩ := of_perform_bind_eq h
    rw [perform_ofExcept, Prod.mk.injEq] at hs
    obtain ⟨hs, rfl⟩ := hs
    exact ⟨s, hset s h, by rwa [if_pos htruthy]⟩
  · next htruthy => exact ⟨_, hset _ h, by rw [if_neg htruthy]⟩

namespace StructuredCore

variable {q : Nat} {w w' : World}

/-- What the core finds stored on a request. -/
def found (target : Nat) : Act Value := do
  let _ ← Act.adapter target
  Act.readStored target recordField

theorem still_found (target : Nat) : Keeps (Still { hosts := [target] }) (found target) :=
  Keeps.bind (Still.adapter (List.mem_singleton.2 rfl)) fun _ =>
    Keeps.readStored (Still.host (List.mem_singleton.2 rfl)) _

/-- The correlation id of a stored record: absent if there is none. -/
def storedId (w : World) (stored : Value) : Except Failure Value :=
  if (w.reveal stored).truthy then lookIn w stored "correlation_id" else .ok .null

/-- What a request brings along: the id of the record stored on it, else that of its header. -/
theorem of_perform_broughtId {a : Adapter} {brought : Value} (h : (broughtId a).perform w = (.ok brought, w')) :
    ∃ stored v known, (Act.readStored a.target recordField).perform w = (.ok stored, v) ∧
      storedId v stored = .ok known ∧
      (if (v.reveal known).truthy then (.ok known, v) else (Act.readHeader a correlationHeader).perform v) =
        (.ok brought, w') := by
  unfold broughtId at h
  obtain ⟨stored, v, hstored, h⟩ := of_perform_bind_eq h
  rw [perform_bind_ok (perform_get v)] at h
  have hgo (known : Value) (hk : (do
      if (v.reveal known).truthy then return known else Act.readHeader a correlationHeader : Act Value).perform v =
        (.ok brought, w')) :
      (if (v.reveal known).truthy then (.ok known, v) else (Act.readHeader a correlationHeader).perform v) =
        (.ok brought, w') := by
    rw [← hk]
    split <;> rfl
  dsimp only at h
  refine ⟨stored, v, ?_⟩
  unfold storedId
  split at h
  · next htruthy =>
    obtain ⟨known, v', hknown, h⟩ := of_perform_bind_eq h
    rw [perform_ofExcept, Prod.mk.injEq] at hknown
    obtain ⟨hknown, rfl⟩ := hknown
    exact ⟨known, hstored, by rwa [if_pos htruthy], hgo known h⟩
  · next htruthy =>
    rw [perform_bind_ok (perform_pure _ v)] at h
    exact ⟨.null, hstored, by rw [if_neg htruthy], hgo .null h⟩

/-- The core starts a context with what the request brings along. What it stores on the request afterwards changes no
context. -/
theorem of_perform_bindLogFunctions (h : (bindLogFunctions q).perform w = (.ok (), w')) :
    ∃ a v brought v' id v'', (Act.adapter q).perform w = (.ok a, v) ∧
      (broughtId a).perform v = (.ok brought, v') ∧ (startRequest brought {}).perform v' = (.ok id, v'') ∧
      w'.contexts = v''.contexts := by
  unfold bindLogFunctions at h
  obtain ⟨a, v, ha, h⟩ := of_perform_bind_eq h
  obtain ⟨brought, v', hbrought, h⟩ := of_perform_bind_eq h
  obtain ⟨id, v'', hid, h⟩ := of_perform_bind_eq h
  refine ⟨a, v, brought, v', id, v'', ha, hbrought, hid, ?_⟩
  have hwrite (name : String) (u : Value) : Keeps SameContexts (Act.writeField q name u) :=
    Keeps.writeField (fun _ _ => rfl) (fun _ _ => rfl) name u
  have hrest : Keeps SameContexts (do
      let context ← Act.context id
      Act.writeField q "correlation_id" context.correlationId
      Act.writeField q "log_context" (.context id)
      Act.writeField q "logger" loggerValue) :=
    Keeps.bind (Keeps.bind Keeps.get fun _ => Keeps.row _ _) fun _ =>
      Keeps.bind (hwrite _ _) fun _ => Keeps.bind (hwrite _ _) fun _ => hwrite _ _
  have hkept := hrest v''
  rw [h] at hkept
  exact hkept

/-- **The id of the context that a request gets**: that of the record that the core finds stored on it, else that of
its header, else the next fresh one. -/
theorem contextId_of_bound (hbound : (bindLogFunctions q).perform w = (.ok (), w')) :
    ∃ stored v known s, (found q).perform w = (.ok stored, v) ∧ storedId v stored = .ok known ∧
      w'.contexts.current?.map (·.correlationId) = some (.text s) ∧
      ((v.reveal known).truthy = true → (v.reveal known).written = .ok s) ∧
      ((v.reveal known).truthy = false →
        (∀ t, t ≠ "" → (w.hostOf q).header? correlationHeader = some (.text t) → s = t) ∧
        ((w.hostOf q).header? correlationHeader = none → ∃ n, w.serial < n ∧ s = World.idText n)) := by
  obtain ⟨a, u, brought, u', id, u'', ha, hbrought, hstarted, hcontexts⟩ := of_perform_bindLogFunctions hbound
  obtain ⟨stored, v, known, hstored, hknown, hgiven⟩ := of_perform_broughtId hbrought
  obtain ⟨s, hcurrent, hs⟩ := of_perform_startRequest hstarted
  have htarget : a.target = q := adapter_target (by rw [ha])
  subst htarget
  have hfound : (found a.target).perform w = (.ok stored, v) := by
    unfold found
    rw [perform_bind_ok ha, hstored]
  have honward : Onward w v := by
    have hfirst := Onward.adapter a.target w
    have hthen := Onward.readStored a.target recordField u
    rw [ha] at hfirst
    rw [hstored] at hthen
    exact trans_of Onward hfirst hthen
  refine ⟨stored, v, known, s, hfound, hknown, by rw [hcontexts, hcurrent], fun htruthy => ?_, fun hfalse => ?_⟩
  · rw [if_pos htruthy, Prod.mk.injEq] at hgiven
    obtain ⟨hgiven, rfl⟩ := hgiven
    obtain rfl := Except.ok.inj hgiven
    rwa [if_pos htruthy] at hs
  · rw [if_neg (by simp [hfalse])] at hgiven
    have hreader : Adapter.detectReader (w.hostOf a.target) = .ok a.reader := detectReader_of_adapter (by rw [ha])
    have hheader : (w.hostOf a.target).header correlationHeader = .ok brought :=
      of_perform_readHeader hreader (honward.headers a.target) _ (by rw [hgiven])
    have hserial : w.serial ≤ u'.serial := by
      have hlast := Onward.readHeader a correlationHeader v
      rw [hgiven] at hlast
      exact Nat.le_trans honward.serial hlast.serial
    refine ⟨fun t ht hsome => ?_, fun hnone => ?_⟩
    · rw [header?_eq_some_iff, hheader, Except.ok.injEq] at hsome
      obtain ⟨rfl, -⟩ := hsome
      have htruthy : (Value.text t).truthy = true := by simpa [Value.truthy] using ht
      rw [World.reveal_text, if_pos htruthy, Value.written_text] at hs
      exact (Except.ok.inj hs).symm
    · rw [header?, hheader] at hnone
      obtain rfl := Value.toOption_eq_none_iff.1 hnone
      rw [World.reveal_null] at hs
      exact ⟨_, Nat.lt_succ_of_le hserial, hs⟩

end StructuredCore

/-! ## The record of a request -/

/-- Waiting for completion leaves the record and the contexts alone. -/
theorem Lifecycle.of_perform_awaitCompletion {w w' : World} {id : Nat} {b : Bool}
    (h : (awaitCompletion id).perform w = (.ok b, w')) :
    w'.recordOf id = w.recordOf id ∧ w'.contexts = w.contexts := by
  unfold awaitCompletion at h
  cases hl : w.lifecycles.get? id with
  | none =>
    obtain ⟨f, hf⟩ := perform_lifecycle_none hl
    rw [perform_bind_error hf] at h
    cases h
  | some l =>
    rw [perform_bind_ok (perform_lifecycle hl)] at h
    obtain ⟨registered, v, hregistered, h⟩ := of_perform_bind_eq h
    have hlogs := (Still.onCompletion (List.mem_singleton.2 rfl) (.lifecycle id) w :
      Still { hosts := [l.response.target] } w _).logs id
    have hcontexts : SameContexts w ((onCompletion l.response (.lifecycle id)).perform w).2 :=
      Keeps.onCompletion (fun _ _ => rfl) (fun _ _ => rfl) rfl (.lifecycle id) w
    rw [hregistered] at hlogs hcontexts
    have hv : v.lifecycles.get? id = some l := hlogs.trans hl
    rw [perform_bind_ok (perform_lifecycle hv)] at h
    obtain rfl := (congrArg Prod.snd h : _ = w')
    refine ⟨?_, hcontexts⟩
    show (Option.map _ ((v.lifecycles.set id _).get? id)).getD {} = _
    rw [Table.get?_set_self hv, World.recordOf, hl]
    rfl

namespace Pipeline

/-- An arrival up to where the record is stored on the request: the number of its log. -/
def recorded (env : Surroundings) (pipeline request response : Nat) : Act Nat := do
  let a ← Act.adapter request
  let b ← Act.adapter response
  let p ← Act.pipeline pipeline
  let record ← (env.core p.core).initLog
  let id ← Act.addLifecycle ⟨pipeline, a, b, record, .created⟩
  Lifecycle.resolvePre env id
  Act.writeField request recordField (.shared (.record id) false)
  return id

variable {w w₁ : World} {pipeline q r id : Nat} {p : Pipeline} {c : StructuredCore} {componentName layer : Value}

/-- A pass over the built-in fields leads onward, and its record is that of the log. -/
theorem resolved_builtins {l : Lifecycle} (hl : w.lifecycles.get? id = some l)
    (hfields : p.config.pre = Builtin.preFields componentName layer) :
    Onward w (l.resolved Application.surroundings id .pre p w) ∧
    (l.resolved Application.surroundings id .pre p w).lifecycles.get? id =
      some { l with record := (l.passed Application.surroundings id .pre p.config w).record, state := .preResolved } := by
  have hkeeps : (Application.surroundings.surface l.request l.response (some id)).Keeps (Onward w)
      (functionsOf p.config.pre) := keeps_builtins (hfields ▸ Builtin.functionsOf_preFields) w
  have hpass : Onward w (l.afterPass Application.surroundings id .pre p.config w) :=
    trans_of Onward (hkeeps.resolvePass .pre l.record (refl_of Onward w)) (Onward.diagnostics _ _)
  refine ⟨trans_of Onward hpass (Onward.setLifecycle _ id _), ?_⟩
  obtain ⟨l', hl'⟩ := Option.isSome_iff_exists.1 (hpass.logs id (by rw [hl]; rfl))
  exact Table.get?_set_self hl' _

section

variable (hp : w.pipelines.get? pipeline = some p) (hc : w.cores.get? p.core = some (.structured c))
  (hrecorded : (recorded Application.surroundings pipeline q r).perform w = (.ok id, w₁))

include hp hc hrecorded

/-- Before its pass a log is created, with an adapter of the request as it was. -/
theorem of_perform_recorded : ∃ a b v, a.target = q ∧ Adapter.detectReader (w.hostOf q) = .ok a.reader ∧
    Onward w v ∧ v.lifecycles.get? id = some ⟨pipeline, a, b, {}, .created⟩ ∧ v.pipelines.get? pipeline = some p ∧
    (start Application.surroundings pipeline q r).perform w = (begin Application.surroundings id).perform v ∧
    (Act.writeField q recordField (.shared (.record id) false)).perform
      ((⟨pipeline, a, b, {}, .created⟩ : Lifecycle).resolved Application.surroundings id .pre p v) = (.ok (), w₁) := by
  unfold recorded at hrecorded
  obtain ⟨a, v, ha, hrecorded⟩ := of_perform_bind_eq hrecorded
  obtain ⟨b, v', hb, hrecorded⟩ := of_perform_bind_eq hrecorded
  have honward : Onward w v' := by
    have hfirst := Onward.adapter q w
    have hthen := Onward.adapter r v
    rw [ha] at hfirst
    rw [hb] at hthen
    exact trans_of Onward hfirst hthen
  have hp' : v'.pipelines.get? pipeline = some p := by rw [honward.pipelines, hp]
  have hinit : (Application.surroundings.core p.core).initLog.perform v' = (.ok {}, v') := by
    refine Standard.perform_initLog ?_
    rw [World.overridesOf?_of_structured (by rw [honward.cores, hc])]
    rfl
  have hadd (l : Lifecycle) : (Act.addLifecycle l).perform v' =
      (.ok v'.lifecycles.next, { v' with lifecycles := v'.lifecycles.add l }) := rfl
  rw [perform_bind_ok (perform_pipeline hp'), perform_bind_ok hinit, perform_bind_ok (hadd _)] at hrecorded
  let l : Lifecycle := ⟨pipeline, a, b, {}, .created⟩
  let u : World := { v' with lifecycles := v'.lifecycles.add l }
  have hl : u.lifecycles.get? v'.lifecycles.next = some l := (Table.get?_add _ _ _).trans (if_pos rfl)
  have hpu : u.pipelines.get? pipeline = some p := hp'
  have hpass : (Lifecycle.resolvePre Application.surroundings v'.lifecycles.next).perform u =
      (.ok (), l.resolved Application.surroundings v'.lifecycles.next .pre p u) := Lifecycle.perform_resolvePre hl hpu
  rw [perform_bind_ok hpass] at hrecorded
  obtain ⟨_, w₂, hstore, hrecorded⟩ := of_perform_bind_eq hrecorded
  obtain ⟨hid, rfl⟩ := Prod.mk.inj hrecorded
  obtain rfl := Except.ok.inj hid
  refine ⟨a, b, u, adapter_target (by rw [ha]), detectReader_of_adapter (by rw [ha]),
    trans_of Onward honward (Onward.addLifecycle v' l), hl, hpu, ?_, hstore⟩
  unfold start
  rw [perform_bind_ok ha, perform_bind_ok hb]
  exact perform_startWith hp' hinit a b

/-- **The correlation id that an arrival records**: the request's header, or an id that it has drawn if that is
missing. -/
theorem recorded_correlationId (hfields : p.config.pre = Builtin.preFields componentName layer) :
    let header := (w.hostOf q).header? "x-correlation-id"
    Onward w w₁ ∧ (∀ v, header = some v → (w₁.recordOf id).get? "correlation_id" = some v) ∧
    (header = none → ∃ n ≤ w₁.serial, (w₁.recordOf id).get? "correlation_id" = some (.text (World.idText n))) := by
  intro header
  obtain ⟨a, b, v, rfl, hreader, honward, hl, -, -, hstore⟩ := of_perform_recorded hp hc hrecorded
  obtain ⟨hpass, hrow⟩ := resolved_builtins hl hfields
  have hclean : Clean {} := fun _ => nofun
  have hvalue := Builtin.resolvePass_correlationId ((honward.headers a.target).detectReader.trans hreader)
    componentName layer b (some id) hclean
  rw [(honward.headers a.target).header?_eq, ← hfields] at hvalue
  obtain ⟨hheader, hdrawn⟩ := hvalue
  let l : Lifecycle := ⟨pipeline, a, b, {}, .created⟩
  let v₁ : World := l.resolved Application.surroundings id .pre p v
  -- Storing the record on the request leaves logs and ids alone.
  have hstill : Act.Keeps (Still { hosts := [a.target] })
      (Act.writeField a.target recordField (.shared (.record id) false)) :=
    Still.writeField (List.mem_singleton.2 rfl) _ _
  have hlast := Onward.writeField (by decide : recordField ∈ storedNames) a.target (.shared (.record id) false) v₁
  have hlogs := (hstill v₁).logs id
  rw [hstore] at hlast hlogs
  have hrecord : w₁.recordOf id = (l.passed Application.surroundings id .pre p.config v).record := by
    rw [World.recordOf, hlogs, hrow]
    rfl
  rw [hrecord]
  refine ⟨trans_of Onward (trans_of Onward honward hpass) hlast, hheader, fun hnone => ?_⟩
  obtain ⟨n, hn, hid⟩ := hdrawn hnone
  exact ⟨n, Nat.le_trans hn hlast.serial, hid⟩

variable {w₂ w₃ : World} {n : Nat} (hfields : p.config.pre = Builtin.preFields componentName layer)
  (hbound : ((Application.surroundings.core p.core).bindLogFunctions q).perform w₁ = (.ok (), w₂))

include hfields hbound

/-- It is the structured core that puts the context on the request. -/
theorem bound_structured : (StructuredCore.bindLogFunctions q).perform w₁ = (.ok (), w₂) := by
  obtain ⟨honward, -, -⟩ := recorded_correlationId hp hc hrecorded hfields
  have hc₁ : w₁.cores.get? p.core = some (.structured c) := by rw [honward.cores, hc]
  have hcore : ((Application.surroundings.core p.core).bindLogFunctions q).perform w₁ =
      (StructuredCore.bindLogFunctions q).perform w₁ := perform_bind_ok (Standard.perform_current hc₁) _
  rw [← hcore, hbound]

/-- **Once the context is on the request**, an arrival that returns leaves record and contexts as they are. -/
theorem of_perform_start (hstart : (start Application.surroundings pipeline q r).perform w = (.ok n, w₃)) :
    n = id ∧ w₃.recordOf id = w₁.recordOf id ∧ w₃.contexts = w₂.contexts := by
  have hstructured := bound_structured hp hc hrecorded hfields hbound
  obtain ⟨honward, -, -⟩ := recorded_correlationId hp hc hrecorded hfields
  obtain ⟨a, b, v, rfl, -, -, hl, hpv, hbegin, hstore⟩ := of_perform_recorded hp hc hrecorded
  obtain ⟨-, hrow⟩ := resolved_builtins hl hfields
  have harrive : (arrive Application.surroundings id).perform v = (.ok (), w₂) := by
    have hpass : (Lifecycle.resolvePre Application.surroundings id).perform v = (.ok (), _) :=
      Lifecycle.perform_resolvePre hl hpv
    have hp₁ : w₁.pipelines.get? pipeline = some p := by rw [honward.pipelines, hp]
    unfold arrive
    rw [perform_bind_ok hpass, perform_bind_ok (perform_lifecycle hrow), perform_bind_ok hstore,
      perform_bind_ok (perform_pipeline hp₁), hbound]
  obtain ⟨ds, hafter⟩ := (arrive Application.surroundings id).after_eq .preResolutionFailed v
  rw [hbegin, perform_begin, hafter, harrive] at hstart
  obtain ⟨registered, v', hregistered, hstart⟩ := of_perform_bind_eq hstart
  obtain ⟨hn, rfl⟩ := Prod.mk.inj hstart
  obtain ⟨hrecord, hcontexts⟩ := Lifecycle.of_perform_awaitCompletion hregistered
  have hlogs := (StructuredCore.still_bindLogFunctions a.target w₁).logs id
  rw [hstructured] at hlogs
  refine ⟨(Except.ok.inj hn).symm, hrecord.trans ?_, hcontexts⟩
  show ((w₂.lifecycles.get? id).map (·.record)).getD {} = _
  rw [hlogs]
  rfl

end

end Pipeline

/-! ## Both ids -/

namespace World

variable {w : World} {id : Nat}

/-- The record of the log and the active context have the same correlation id, and it is not empty. -/
def SharesId (w : World) (id : Nat) : Prop :=
  ∃ s, s ≠ "" ∧ (w.recordOf id).value "correlation_id" = .text s ∧
    w.contexts.current?.map (·.correlationId) = some (.text s)

theorem sharesId_iff {s : String} (hcontext : w.contexts.current?.map (·.correlationId) = some (.text s)) :
    w.SharesId id ↔ s ≠ "" ∧ (w.recordOf id).value "correlation_id" = .text s := by
  constructor
  · rintro ⟨t, ht, hrecord, hsame⟩
    rw [hcontext, Option.some.injEq, Value.text.injEq] at hsame
    subst hsame
    exact ⟨ht, hrecord⟩
  · rintro ⟨hs, hrecord⟩
    exact ⟨s, hs, hrecord, hcontext⟩

/-- The context has an id that is known from elsewhere. -/
theorem sharesId_iff_of_written {s : String} {written : Except Failure String}
    (hcontext : w.contexts.current?.map (·.correlationId) = some (.text s)) (hwritten : written = .ok s) :
    w.SharesId id ↔ ∃ t, t ≠ "" ∧ written = .ok t ∧ (w.recordOf id).value "correlation_id" = .text t := by
  rw [sharesId_iff hcontext, hwritten]
  constructor
  · rintro ⟨hs, hrecord⟩
    exact ⟨s, hs, rfl, hrecord⟩
  · rintro ⟨t, ht, hsame, hrecord⟩
    rw [Except.ok.inj hsame]
    exact ⟨ht, hrecord⟩

/-- Record and context have their ids from the same header, or fresh ones, the context a later one. -/
theorem sharesId_iff_of_header {s : String} {header : Option Value} {k : Nat}
    (hcontext : w.contexts.current?.map (·.correlationId) = some (.text s))
    (hheader : ∀ v, header = some v → (w.recordOf id).value "correlation_id" = v)
    (hdrawn : header = none → ∃ m ≤ k, (w.recordOf id).value "correlation_id" = .text (idText m))
    (htext : ∀ t, t ≠ "" → header = some (.text t) → s = t)
    (hfresh : header = none → ∃ m, k < m ∧ s = idText m) :
    w.SharesId id ↔ ∃ t, t ≠ "" ∧ header = some (.text t) := by
  rw [sharesId_iff hcontext]
  constructor
  · rintro ⟨hs, hrecord⟩
    cases hh : header with
    | some v =>
      rw [hheader v hh] at hrecord
      exact ⟨s, hs, congrArg some hrecord⟩
    | none =>
      obtain ⟨m, hm, hfirst⟩ := hdrawn hh
      obtain ⟨m', hm', rfl⟩ := hfresh hh
      rw [hfirst, Value.text.injEq] at hrecord
      have hsame := idText_injective hrecord
      omega
  · rintro ⟨t, ht, hh⟩
    obtain rfl := htext t ht hh
    exact ⟨ht, hheader _ hh⟩

end World

namespace StructuredCore

variable {w : World} {id : Nat} {v : Value}

/-- A record with an id stands for something. -/
theorem truthy_reveal_record (h : (w.recordOf id).get? "correlation_id" = some v) :
    (w.reveal (.shared (.record id) false)).truthy = true := by
  unfold World.reveal World.depth
  simp only [Value.mapShared, World.follow, List.contains_nil, Bool.false_eq_true, if_false, World.content]
  cases hentries : (w.recordOf id).entries with
  | nil =>
    rw [OrderedMap.get?, hentries] at h
    cases h
  | cons e rest => rfl

/-- A request that gives the record back brings along the record's id. -/
theorem storedId_record (h : (w.recordOf id).get? "correlation_id" = some v) :
    storedId w (.shared (.record id) false) = .ok v := by
  rw [storedId, if_pos (truthy_reveal_record h)]
  show Except.ok (((w.recordOf id).get? "correlation_id").getD .null) = .ok v
  rw [h]
  rfl

end StructuredCore

namespace Pipeline

/-- **When a request has one correlation id.** The request arrives at a pipeline with the structured core and the
built-in fields; the context has been put on it, and the arrival returns. Then the record's id is the value of the
request's header, and a fresh id if that is missing. As to the context's id,

- if the core finds a record with an id on the request, record and context share that just if it is written as the
  record has it;
- otherwise they share an id just if the header is a text that is not empty;
- so if the request gives back the record that has been stored on it, they share an id just if the header is missing or
  a text that is not empty. -/
theorem start_sharesId_iff {w w₁ w₂ w₃ : World} {pipeline q r id n : Nat} {p : Pipeline} {c : StructuredCore}
    {componentName layer : Value} (hp : w.pipelines.get? pipeline = some p)
    (hc : w.cores.get? p.core = some (.structured c)) (hfields : p.config.pre = Builtin.preFields componentName layer)
    (hrecorded : (recorded Application.surroundings pipeline q r).perform w = (.ok id, w₁))
    (hbound : ((Application.surroundings.core p.core).bindLogFunctions q).perform w₁ = (.ok (), w₂))
    (hstart : (start Application.surroundings pipeline q r).perform w = (.ok n, w₃)) :
    let header := (w.hostOf q).header? "x-correlation-id"
    let own := (w₃.recordOf n).value "correlation_id"
    (∀ v, header = some v → own = v) ∧ (header = none → ∃ k, own = .text (World.idText k)) ∧
    ∃ stored v known, (StructuredCore.found q).perform w₁ = (.ok stored, v) ∧
      StructuredCore.storedId v stored = .ok known ∧
      ((v.reveal known).truthy = true →
        (w₃.SharesId n ↔ ∃ s, s ≠ "" ∧ (v.reveal known).written = .ok s ∧ own = .text s)) ∧
      ((v.reveal known).truthy = false → (w₃.SharesId n ↔ ∃ s, s ≠ "" ∧ header = some (.text s))) ∧
      (stored = .shared (.record n) false →
        (w₃.SharesId n ↔ header = none ∨ ∃ s, s ≠ "" ∧ header = some (.text s))) := by
  intro header own
  obtain ⟨rfl, hrecord, hcontexts⟩ := of_perform_start hp hc hrecorded hfields hbound hstart
  obtain ⟨honward, hheader, hdrawn⟩ := recorded_correlationId hp hc hrecorded hfields
  obtain ⟨stored, v, known, s, hfound, hknown, hcontext, hgiven, hother⟩ :=
    StructuredCore.contextId_of_bound (bound_structured hp hc hrecorded hfields hbound)
  rw [← hcontexts] at hcontext
  rw [(honward.headers q).header?_eq] at hother
  have hown {u : Value} (h : (w₁.recordOf n).get? "correlation_id" = some u) : own = u := by
    unfold own
    rw [hrecord, OrderedMap.value, h]
    rfl
  have hrow (u : Value) (hu : header = some u) : own = u := hown (hheader u hu)
  have hdraw (hnone : header = none) : ∃ k ≤ w₁.serial, own = .text (World.idText k) := by
    obtain ⟨k, hk, h⟩ := hdrawn hnone
    exact ⟨k, hk, hown h⟩
  have hwritten (htruthy : (v.reveal known).truthy = true) :
      w₃.SharesId n ↔ ∃ s, s ≠ "" ∧ (v.reveal known).written = .ok s ∧ own = .text s :=
    World.sharesId_iff_of_written hcontext (hgiven htruthy)
  have htext (hfalse : (v.reveal known).truthy = false) : w₃.SharesId n ↔ ∃ s, s ≠ "" ∧ header = some (.text s) :=
    World.sharesId_iff_of_header hcontext hrow hdraw (hother hfalse).1 (hother hfalse).2
  refine ⟨hrow, fun hnone => (hdraw hnone).imp fun _ => And.right, stored, v, known, hfound, hknown, hwritten, htext, ?_⟩
  rintro rfl
  -- The record that the core finds is that of the log, so the id that it knows is the record's.
  have hlogs := (StructuredCore.still_found q w₁).logs n
  rw [hfound] at hlogs
  have hv : v.recordOf n = w₁.recordOf n := by rw [World.recordOf, hlogs, World.recordOf]
  have hsame : known = own := by
    obtain ⟨u, hu⟩ : ∃ u, (w₁.recordOf n).get? "correlation_id" = some u := by
      cases hh : header with
      | some u => exact ⟨u, hheader u hh⟩
      | none => exact (hdrawn hh).elim fun _ h => ⟨_, h.2⟩
    rw [StructuredCore.storedId_record (by rw [hv, hu]), Except.ok.injEq] at hknown
    rw [hown hu, hknown]
  have hshares : w₃.SharesId n ↔ ∃ s, s ≠ "" ∧ own = .text s := by
    rw [hsame] at hwritten htext
    constructor
    · rintro ⟨t, ht, htown, -⟩
      exact ⟨t, ht, htown⟩
    · rintro ⟨t, ht, htown⟩
      rw [htown, World.reveal_text] at hwritten
      have htruthy : (Value.text t).truthy = true := by simpa [Value.truthy] using ht
      exact (hwritten htruthy).2 ⟨t, ht, Value.written_text t, rfl⟩
  rw [hshares]
  cases hh : header with
  | none =>
    obtain ⟨k, -, hk⟩ := hdraw hh
    exact iff_of_true ⟨_, World.idText_ne_empty k, hk⟩ (.inl rfl)
  | some u =>
    rw [hrow u hh]
    constructor
    · rintro ⟨t, ht, rfl⟩
      exact .inr ⟨t, ht, rfl⟩
    · rintro (hnone | ⟨t, ht, hu⟩)
      · cases hnone
      · exact ⟨t, ht, Option.some.inj hu⟩

/-- A pipeline with the built-in fields. -/
def withBuiltinFields : Pipeline := { core := 0, config := Builtin.fieldConfig, level := defaultLevel }

/-- A request with a header for the correlation id, and a response. -/
def headed (id : String) : World :=
  let headers : Value := .dict [("x-correlation-id", .text id)]
  { hosts := ⟨[{ nature := .dict, items := ⟨[("headers", headers)]⟩ }, { nature := .dict }]⟩
    cores := ⟨[.structured { config := Builtin.fieldConfig }]⟩
    pipelines := ⟨[withBuiltinFields]⟩ }

set_option maxRecDepth 4000 in
/-- A request whose header is a text that is not empty has one id. -/
theorem start_sharesId_iff_headed :
    let w₁ := ((recorded Application.surroundings 0 0 1).perform (headed "abc")).2
    let w₂ := (((Application.surroundings.core 0).bindLogFunctions 0).perform w₁).2
    let w₃ := ((start Application.surroundings 0 0 1).perform (headed "abc")).2
    (recorded Application.surroundings 0 0 1).perform (headed "abc") = (.ok 0, w₁) ∧
    ((Application.surroundings.core 0).bindLogFunctions 0).perform w₁ = (.ok (), w₂) ∧
    (start Application.surroundings 0 0 1).perform (headed "abc") = (.ok 0, w₃) ∧ w₃.SharesId 0 := by
  intro w₁ w₂ w₃
  have hrecorded : (recorded Application.surroundings 0 0 1).perform (headed "abc") = (.ok 0, w₁) :=
    perform_of_toOption (by decide +kernel)
  have hbound : ((Application.surroundings.core 0).bindLogFunctions 0).perform w₁ = (.ok (), w₂) :=
    perform_of_toOption (by decide +kernel)
  have hstart : (start Application.surroundings 0 0 1).perform (headed "abc") = (.ok 0, w₃) :=
    perform_of_toOption (by decide +kernel)
  have hp : (headed "abc").pipelines.get? 0 = some withBuiltinFields := rfl
  have hfields : withBuiltinFields.config.pre = Builtin.preFields (.text "netlog") (.text "[PY] NET") := rfl
  have hback : ((StructuredCore.found 0).perform w₁).1 = .ok (.shared (.record 0) false) := rfl
  obtain ⟨-, -, stored, v, known, hfound, -, -, -, hshares⟩ :=
    start_sharesId_iff hp rfl hfields hrecorded hbound hstart
  rw [hfound] at hback
  exact ⟨hrecorded, hbound, hstart, (hshares (Except.ok.inj hback)).2 (.inr ⟨"abc", by decide, rfl⟩)⟩

/-- **A request can have two ids**: with an empty header the record's is empty, and the context has a fresh one. -/
theorem not_start_sharesId :
    let w₁ := ((recorded Application.surroundings 0 0 1).perform (headed "")).2
    let w₂ := (((Application.surroundings.core 0).bindLogFunctions 0).perform w₁).2
    let w₃ := ((start Application.surroundings 0 0 1).perform (headed "")).2
    (recorded Application.surroundings 0 0 1).perform (headed "") = (.ok 0, w₁) ∧
    ((Application.surroundings.core 0).bindLogFunctions 0).perform w₁ = (.ok (), w₂) ∧
    (start Application.surroundings 0 0 1).perform (headed "") = (.ok 0, w₃) ∧
    (w₃.recordOf 0).value "correlation_id" = .text "" ∧ ¬w₃.SharesId 0 := by
  intro w₁ w₂ w₃
  have hrecorded : (recorded Application.surroundings 0 0 1).perform (headed "") = (.ok 0, w₁) :=
    perform_of_toOption (by decide +kernel)
  have hbound : ((Application.surroundings.core 0).bindLogFunctions 0).perform w₁ = (.ok (), w₂) :=
    perform_of_toOption (by decide +kernel)
  have hstart : (start Application.surroundings 0 0 1).perform (headed "") = (.ok 0, w₃) :=
    perform_of_toOption (by decide +kernel)
  have hp : (headed "").pipelines.get? 0 = some withBuiltinFields := rfl
  have hfields : withBuiltinFields.config.pre = Builtin.preFields (.text "netlog") (.text "[PY] NET") := rfl
  obtain ⟨-, hrecord, -⟩ := of_perform_start hp rfl hrecorded hfields hbound hstart
  obtain ⟨-, hheader, -⟩ := recorded_correlationId hp rfl hrecorded hfields
  have hown : (w₃.recordOf 0).value "correlation_id" = .text "" := by
    rw [hrecord, OrderedMap.value, hheader (.text "") rfl]
    rfl
  refine ⟨hrecorded, hbound, hstart, hown, ?_⟩
  rintro ⟨s, hs, hsame, -⟩
  rw [hown, Value.text.injEq] at hsame
  exact hs hsame.symm

end Pipeline

end ActivityLog
