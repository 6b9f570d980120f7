import ActivityLog.Middleware
import ActivityLog.Proofs.Lifecycle.Waiting

/-!
# Requests through the middleware

The middleware stands around what comes next, be it the whole application: it starts the log of a request, lets the
application give a response or fail, and completes the log, after the response has been sent or at once.

- `Serving`: a request on its way, whose log waits with the stand-in for the response. An arrival puts it there
  (`Middleware.perform_arrive`), and it stays there while others are dealt with (`Serving.aloof`).
- `Completed`: its log has gone through its first completion, with the status and the headers of a response. That is
  what telling the stand-in amounts to once it is bound (`Serving.fire`).
- `Middleware.dispatch_transparent`: every request is handed over once at most, and only when it is through; what comes
  next is performed once and its response or failure is passed on. `Middleware.not_dispatch_transparent`: that failure
  is lost if the address of the request is unreadable.
-/

namespace ActivityLog

open Act

/-- A request on its way: its log, if there is one, waits with the stand-in for its response, and the request takes the
record back. -/
structure Serving (w : World) (pipeline request stand : Nat) (log : Option Nat) (h : Handle) : Prop where
  standsIn : w.StandsIn stand h
  listeners : h.listeners = log.toList.map .lifecycle
  takes : w.Takes request
  apart : request ≠ stand
  waits : ∀ id, log = some id → ∃ l p, w.lifecycles.get? id = some l ∧ l.state = .awaitingCompletion ∧
    l.pipeline = pipeline ∧ l.request.target = request ∧ l.response = ⟨stand, .ofHandle, some .ofHandle⟩ ∧
    w.pipelines.get? pipeline = some p

/-- The response that goes on in place of one: with a log, its completion comes before the work that follows anyway. -/
def Response.behind (r : Response) (log : Option Nat) : Response :=
  { r with background := if log.isSome then some (.completion r.background) else r.background }

/-- A response of the same status and headers. -/
def Response.Like (r r' : Response) : Prop := r.status = r'.status ∧ r.headers = r'.headers

/-- The log of a request, if there is one, has gone through its first completion: the fields of completion were read
from the response, and one attempt was made to hand the record over. Without a log nothing was handed over. -/
def Completed (env : Surroundings) (pipeline request : Nat) (response : Response) (w w' : World) : Option Nat → Prop
  | none => w'.emissions = w.emissions
  | some id => ∃ (l : Lifecycle) (p : Pipeline) (v : World), v.emissions = w.emissions ∧
      v.lifecycles.get? id = some l ∧ l.state = .awaitingCompletion ∧ l.request.target = request ∧
      v.pipelines.get? pipeline = some p ∧
      (v.hostOf l.response.target).readField "status_code" = .ok (.int response.status) ∧
      (∀ name, l.response.readHeader (v.hostOf l.response.target) name = Headers.ask response.headerValue name) ∧
      w'.emissions = w.emissions ++ l.attempt env id p v ∧
      ∃ record, w'.lifecycles.get? id = some { l with record, state := .emitted }

variable {env : Surroundings} {fs : FieldFunction → Prop} {w w' : World} {pipeline request stand : Nat}
  {log : Option Nat} {h : Handle} {r response : Response}

namespace Completed

variable {w₀ w'' : World}

/-- Nothing was handed over before. -/
theorem after (hc : Completed env pipeline request response w w' log) (h : w.emissions = w₀.emissions) :
    Completed env pipeline request response w₀ w' log := by
  cases log with
  | none => exact Eq.trans hc h
  | some id =>
    obtain ⟨l, p, v, hv, hl, hstate, hrequest, hp, hstatus, hheaders, hnotes, hrow⟩ := hc
    exact ⟨l, p, v, hv.trans h, hl, hstate, hrequest, hp, hstatus, hheaders, h ▸ hnotes, hrow⟩

/-- Nothing is handed over afterwards. -/
theorem before (hc : Completed env pipeline request response w w' log) (h : w''.emissions = w'.emissions)
    (hlogs : w''.lifecycles = w'.lifecycles) : Completed env pipeline request response w w'' log := by
  cases log with
  | none => exact h.trans hc
  | some id =>
    obtain ⟨l, p, v, hv, hl, hstate, hrequest, hp, hstatus, hheaders, hnotes, hrow⟩ := hc
    exact ⟨l, p, v, hv, hl, hstate, hrequest, hp, hstatus, hheaders, h.trans hnotes, hlogs ▸ hrow⟩

end Completed

/-! ## What is read of a bound stand-in -/

theorem World.StandsIn.hostOf (hs : w.StandsIn stand h) :
    (w.hostOf stand).nature = .handle h ∧ (w.hostOf stand).attributes = {} := by
  obtain ⟨host, hh, hn, ha⟩ := hs
  have hof : w.hostOf stand = host := by rw [World.hostOf, hh]; rfl
  rw [hof]
  exact ⟨hn, ha⟩

/-- **A stand-in shows the status of its response.** -/
theorem World.StandsIn.readField_status (hs : w.StandsIn stand h) (hr : h.response = some (.response r)) :
    (w.hostOf stand).readField "status_code" = .ok (.int r.status) :=
  Host.readField_standIn (r := some r) hs.hostOf.1 hs.hostOf.2 hr (by decide +kernel)

/-- **A stand-in shows the headers of its response.** -/
theorem World.StandsIn.readHeader (hs : w.StandsIn stand h) (hr : h.response = some (.response r)) (name : String) :
    (⟨stand, .ofHandle, some .ofHandle⟩ : Adapter).readHeader (w.hostOf stand) name =
      Headers.ask r.headerValue name :=
  Host.readBound_standIn (r := some r) hs.hostOf.1 hr

namespace Serving

/-! ## From arrival to completion -/

/-- A request stays on its way while others are dealt with. -/
theorem aloof (hs : Serving w pipeline request stand log h) (ha : Aloof fs w w') :
    ∃ h', (h' = h ∨ h' = h.looked) ∧ Serving w' pipeline request stand log h' := by
  have hwaits (id : Nat) (hid : log = some id) : ∃ l p, w'.lifecycles.get? id = some l ∧
      l.state = .awaitingCompletion ∧ l.pipeline = pipeline ∧ l.request.target = request ∧
      l.response = ⟨stand, .ofHandle, some .ofHandle⟩ ∧ w'.pipelines.get? pipeline = some p := by
    obtain ⟨l, p, hl, hstate, hpipeline, hrequest, hresponse, hp⟩ := hs.waits id hid
    obtain ⟨record, state, hl', hkept⟩ := ha.lifecycles id l hl
    obtain rfl := hkept nofun
    exact ⟨_, p, hl', hstate, hpipeline, hrequest, hresponse, ha.pipelines _ _ hp⟩
  have htakes := (ha.intact stand).takes request hs.takes
  rcases (ha.intact stand).standIn h hs.standsIn with hsame | hlooked
  · exact ⟨h, .inl rfl, hsame, hs.listeners, htakes, hs.apart, hwaits⟩
  · exact ⟨_, .inr rfl, hlooked, h.listeners_looked.trans hs.listeners, htakes, hs.apart, hwaits⟩

/-- A step on the stand-in only. -/
theorem still (hs : Serving w pipeline request stand log h) {log' : Option Nat} {h' : Handle}
    (hlog : ∀ id, log' = some id → log = some id) (hh' : h'.listeners = log'.toList.map .lifecycle)
    (hstands : w'.StandsIn stand h') (hstill : Still { hosts := [stand] } w w') :
    Serving w' pipeline request stand log' h' := by
  refine ⟨hstands, hh', hs.takes.still hstill (by simpa using hs.apart), hs.apart, fun id hid => ?_⟩
  obtain ⟨l, p, hl, hstate, hpipeline, hrequest, hresponse, hp⟩ := hs.waits id (hlog id hid)
  exact ⟨l, p, (hstill.logs id).trans hl, hstate, hpipeline, hrequest, hresponse, by rw [hstill.pipelines, hp]⟩

/-- The stand-in is bound to the response, whose background tells of the completion if there is a log. -/
theorem bind (hs : Serving w pipeline request stand log h) (r : Response) :
    ∃ w' waits, (Handle.bindAt stand r).perform w = (.ok waits, w') ∧
      Serving w' pipeline request stand log { h with response := some (.response (r.behind log)) } ∧
      Still { hosts := [stand] } w w' := by
  have hbind : h.bind r = { h with response := some (.response (r.behind log)) } := by
    unfold Handle.bind
    rw [hs.listeners]
    cases log <;> rfl
  obtain ⟨w', hbound, hstands, honly⟩ := hs.standsIn.perform_bindAt r
  rw [hbind] at hstands
  exact ⟨w', _, hbound, hs.still (fun _ hid => hid) hs.listeners hstands honly.still, honly.still⟩

/-- **Once the stand-in is bound to a response, telling it of the completion completes the log.** -/
theorem fire (henv : env.Harmless fs) (hw : w.Calls fs) (hs : Serving w pipeline request stand log h)
    (hr : h.response = some (.response r)) (hlike : r.Like response) :
    ∃ w', (Handle.fire env.watched stand).perform w = (.ok (), w') ∧ w'.Calls fs ∧
      Completed env pipeline request response w w' log := by
  obtain ⟨v, hfire, hstands, honly⟩ := hs.standsIn.perform_fire env.watched
  have hstill := honly.still
  have hv : v.Calls fs := hstill.quiet.calls hw
  rw [hfire, hs.listeners]
  cases log with
  | none => exact ⟨v, rfl, hv, hstill.emissions⟩
  | some id =>
    obtain ⟨l, p, hl, hstate, rfl, rfl, hresponse, hp⟩ := hs.waits id rfl
    have hl' := (hstill.logs id).trans hl
    have hp' : v.pipelines.get? l.pipeline = some p := by rw [hstill.pipelines, hp]
    have htakes : v.Takes l.request.target := hs.takes.still hstill (by simpa using hs.apart)
    obtain ⟨w', hcomplete, hnotes, hrow, hw'⟩ :=
      Lifecycle.perform_complete_of_takes henv hv hl' hstate hp' htakes
    refine ⟨w', ?_, hw', l, p, v, hstill.emissions, hl', hstate, rfl, hp', ?_, fun name => ?_, ?_, hrow⟩
    · show ((Lifecycle.complete env.watched id >>= fun _ => pure ()).perform v) = _
      rw [perform_bind_ok hcomplete]
      rfl
    · rw [hresponse, hstands.readField_status hr, hlike.1]
    · have hvalue : r.headerValue = response.headerValue := by unfold Response.headerValue; rw [hlike.2]
      rw [hresponse, hstands.readHeader hr, hvalue]
    · rw [hnotes, hstill.emissions]

end Serving

/-! ## The steps of the middleware -/

namespace Middleware

/-- What the middleware says of a request's failure names the request, whose address may be unreadable. -/
theorem perform_report (r : WebRequest) (more : List (String × Value)) (message : String) (w : World) :
    ∃ ds, (do
        let fields ← Act.ofExcept (requestFields r)
        Act.diagnose [⟨.middleware, .error, message, fields ++ more⟩] : Act Unit).perform w =
      (r.address.map fun _ => (), { w with diagnostics := ds }) := by
  cases ha : r.address with
  | error g =>
    have hfields : requestFields r = .error g := by unfold requestFields; rw [ha]; rfl
    rw [hfields, perform_bind_error (perform_ofExcept _ _)]
    exact ⟨w.diagnostics, rfl⟩
  | ok a =>
    obtain ⟨fields, hfields⟩ : ∃ fields, requestFields r = .ok fields := by
      unfold requestFields
      rw [ha]
      exact ⟨_, rfl⟩
    rw [hfields, perform_bind_ok (perform_ofExcept _ _)]
    exact ⟨_, rfl⟩

/-- **An arrival through the middleware** puts the request on its way, and hands nothing over. Only the report of a
failed start can fail, namely for a request whose address is unreadable. -/
theorem perform_arrive (henv : env.Harmless fs) (hw : w.Calls fs) (hs : w.StandsIn stand {}) (hne : request ≠ stand)
    (htakes : w.Takes request) (m : Middleware) (r : WebRequest) :
    let log := ((Pipeline.start env.watched m.pipeline request stand).perform w).1.toOption
    let arrived := (arrive env.watched m r request stand).perform w
    Serving arrived.2 m.pipeline request stand log { listeners := log.toList.map .lifecycle } ∧
      arrived.2.Calls fs ∧ arrived.2.emissions = w.emissions ∧
      ∀ g, arrived.1 = .error g → log = none ∧ r.address = .error g := by
  obtain ⟨hquiet, hreturned⟩ := Pipeline.quiet_start henv.toDiscreet hw m.pipeline request stand
  obtain ⟨result, v, hstart, hothers, hends⟩ := Pipeline.start_standsIn henv hw hs hne m.pipeline
  rw [hstart] at hquiet hreturned
  have harrive (g : Except Failure Nat → Act Unit) :
      (Act.outcome (Pipeline.start env.watched m.pipeline request stand) >>= g).perform w = (g result).perform v := by
    rw [perform_bind_ok (perform_outcome _ _), hstart]
  unfold arrive
  rw [harrive, hstart]
  have hcalls := hquiet.calls hw
  rcases hends with ⟨⟨f, rfl⟩, hstands⟩ | ⟨id, l, rfl, hstands, hl, hstate, hpipeline, hrequest, hresponse⟩
  · obtain ⟨ds, hreport⟩ := perform_report r [("error", .text f.text)] "network_log_start_failed" v
    dsimp only
    rw [hreport]
    refine ⟨⟨hstands, rfl, hothers _ hne htakes, hne, nofun⟩, hcalls, hquiet.emissions, fun g hg => ⟨rfl, ?_⟩⟩
    cases ha : r.address <;> rw [ha] at hg <;> cases hg
    rfl
  · obtain ⟨-, ⟨p, hp⟩, -⟩ := hreturned id rfl
    refine ⟨⟨hstands, rfl, hothers _ hne htakes, hne, ?_⟩, hcalls, hquiet.emissions, nofun⟩
    rintro _ ⟨rfl⟩
    exact ⟨l, p, hl, hstate, hpipeline, hrequest, hresponse, hp⟩

/-- **When what came next failed** the log is completed with a bare server error, and the failure is passed on. Only
the report of it can fail. -/
theorem perform_answer_error (henv : env.Harmless fs) (hw : w.Calls fs)
    (hs : Serving w pipeline request stand log h) (r : WebRequest) (f : Failure) :
    ∃ v, (answer env.watched r stand (.error f)).perform w = (r.address.bind fun _ => .error f, v) ∧
      Completed env pipeline request Response.serverError w v log := by
  obtain ⟨w₁, waits, hbound, hs₁, hstill⟩ := hs.bind Response.serverError
  have hlike : (Response.serverError.behind log).Like Response.serverError := ⟨rfl, rfl⟩
  obtain ⟨w₂, hfire, -, hcompleted⟩ := hs₁.fire henv (hstill.quiet.calls hw) rfl hlike
  obtain ⟨ds, hreport⟩ := perform_report r (Diagnostic.failure f) "request_failed_with_exception" w₂
  refine ⟨{ w₂ with diagnostics := ds }, ?_, (hcompleted.after hstill.emissions).before rfl rfl⟩
  have hfailed : (completeFailed env.watched r stand f).perform w =
      (r.address.map fun _ => (), { w₂ with diagnostics := ds }) := by
    unfold completeFailed
    rw [perform_bind_ok hbound, perform_bind_ok hfire, hreport]
  unfold answer
  cases ha : r.address <;> rw [ha] at hfailed
  · exact perform_bind_error hfailed _
  · exact perform_bind_ok hfailed _

/-- **After the response** its log is completed, and the work of the response follows. -/
theorem perform_finishResponse (henv : env.Harmless fs) (hw : w.Calls fs)
    (hs : Serving w pipeline request stand log h) (hr : h.response = some (.response r))
    (hlike : r.Like response) (hbehind : r.background = (response.behind log).background) :
    ∃ v, Completed env pipeline request response w v log ∧
      (finishResponse env.watched stand).perform w =
        (response.background.forM (Handle.runBackground env.watched stand)).perform v := by
  have hbackground : h.background? = (response.behind log).background := by
    unfold Handle.background?
    rw [hr, ← hbehind]
  unfold finishResponse
  rw [perform_bind_ok hs.standsIn.perform_standIn, hbackground]
  cases log with
  | none =>
    have hsame : (response.behind none).background = response.background := rfl
    refine ⟨w, rfl, ?_⟩
    rw [hsame]
    cases response.background <;> rfl
  | some id =>
    obtain ⟨v, hfire, -, hcompleted⟩ := hs.fire henv hw hr hlike
    refine ⟨v, hcompleted, ?_⟩
    show (Handle.runBackground env.watched stand (.completion response.background)).perform w = _
    cases response.background with
    | none => exact hfire
    | some b => exact perform_bind_ok hfire _

/-- **When there is a response** it is passed on, and nothing is handed over until what follows it is run, whatever
happens in between. -/
theorem perform_answer_ok (henv : env.Harmless fs) (hw : w.Calls fs)
    (hs : Serving w pipeline request stand log h) (r : WebRequest) (response : Response) :
    ∃ v, (answer env.watched r stand (.ok response)).perform w = (.ok (some stand, response.behind log), v) ∧
      v.emissions = w.emissions ∧ ∀ v', Aloof fs v v' → ∃ v'', Completed env pipeline request response v' v'' log ∧
        (finishResponse env.watched stand).perform v' =
          (response.background.forM (Handle.runBackground env.watched stand)).perform v'' := by
  obtain ⟨v, waits, hbound, hs₁, hstill⟩ := hs.bind response
  refine ⟨v, ?_, hstill.emissions, fun v' ha => ?_⟩
  · unfold answer
    rw [perform_bind_ok hbound, perform_bind_ok hs₁.standsIn.perform_standIn]
    rfl
  obtain ⟨h', hlooked, hs₂⟩ := hs₁.aloof ha
  obtain ⟨r', hr', hlike, hbehind⟩ : ∃ r', h'.response = some (.response r') ∧ r'.Like response ∧
      r'.background = (response.behind log).background := by
    rcases hlooked with rfl | rfl <;> exact ⟨_, rfl, ⟨rfl, rfl⟩, rfl⟩
  exact perform_finishResponse henv (ha.calls (hstill.quiet.calls hw)) hs₂ hr' hlike hbehind

end Middleware

/-! ## Requests one after the other -/

/-- A request with all that there is around the middleware: what comes next, for the number of the request, and how the
response is sent. -/
structure Exchange where
  request : WebRequest
  next : Nat → Act Response
  sending : Response → Act Unit

namespace Exchange

/-- The server makes the request. -/
def arrival (x : Exchange) : Act Nat := do Act.addHost (← Act.ofExcept (x.request.toHost [] true))

/-- The request goes through the middleware. What follows a response is run once it has been sent. -/
def through (env : Surroundings) (m : Middleware) (x : Exchange) : Act Unit := do
  let request ← x.arrival
  let (stand, response) ← Middleware.dispatch env m x.request request (x.next request)
  x.sending response
  stand.forM (Middleware.finishResponse env)

/-- The application leaves logs to the middleware, and hosts in service. -/
structure IsAloof (fs : FieldFunction → Prop) (x : Exchange) : Prop where
  next : ∀ request, Keeps (Aloof fs) (x.next request)
  sending : ∀ response, Keeps (Aloof fs) (x.sending response)

/-- The state after some requests. -/
def run (env : Surroundings) (m : Middleware) (xs : List Exchange) (w : World) : World :=
  xs.foldl (fun w x => ((x.through env m).perform w).2) w

end Exchange

/-- The state with a further stand-in for a response. -/
def World.withStandIn (w : World) : World :=
  { w with hosts := w.hosts.add { Host.ofHandle {} with number := w.hosts.next } }

/-- No further functions come to be called. -/
def World.CallsKept (fs : FieldFunction → Prop) (w w' : World) : Prop := w.Calls fs → w'.Calls fs

namespace CallsKept

instance : IsPreorder World (World.CallsKept fs) where
  refl _ := id
  trans _ _ _ h h' := h' ∘ h

theorem of_aloof {α : Type} {x : Act α} (h : Keeps (Aloof fs) x) : Keeps (World.CallsKept fs) x :=
  h.mono fun _ _ ha => ha.calls

theorem standIn (id : Nat) : Keeps (World.CallsKept fs) (Handle.standIn id) := by
  refine Keeps.bind (Keeps.host id) fun host => ?_
  split
  · exact Keeps.pure _
  · exact Keeps.throw _

theorem setHost (id : Nat) (host : Host) : Keeps (World.CallsKept fs) (Act.setHost id host) := fun _ hw => hw

theorem demandMethod (id : Nat) (name : String) : Keeps (World.CallsKept fs) (Handle.demandMethod id name) := by
  refine Keeps.bind (Keeps.host id) fun host => ?_
  split
  · exact Keeps.throw _
  · exact Keeps.pure _

theorem bindAt (id : Nat) (r : Response) : Keeps (World.CallsKept fs) (Handle.bindAt id r) := by
  refine Keeps.bind (demandMethod id _) fun _ => Keeps.bind (Keeps.host id) fun host => ?_
  refine Keeps.bind (standIn id) fun stand => ?_
  exact Keeps.bind (Keeps.bind (Keeps.host id) fun _ => setHost id _) fun _ => Keeps.pure _

theorem notify (h : env.Discreet fs) (l : Listener) : Keeps (World.CallsKept fs) (Handle.notify env.watched [] l) := by
  cases l with
  | lifecycle id => exact fun w hw => (Lifecycle.steady_complete h hw id).1.calls hw
  | observer tag => exact fun _ => id
  | other v => exact Keeps.throw _

theorem fire (h : env.Discreet fs) (id : Nat) : Keeps (World.CallsKept fs) (Handle.fire env.watched id) := by
  refine Keeps.bind (demandMethod id _) fun _ => Keeps.bind ?_ fun listeners => Keeps.forM (notify h) listeners
  refine Keeps.bind (standIn id) fun stand => Keeps.bind (Keeps.host id) fun host => ?_
  refine Keeps.bind (setHost id _) fun _ => ?_
  split
  · exact Keeps.ofExcept _
  · exact Keeps.pure _

theorem runBackground (h : env.Discreet fs) (id : Nat) :
    ∀ b : Background, Keeps (World.CallsKept fs) (Handle.runBackground env.watched id b)
  | .task _ => fun _ hw => hw
  | .failing f => Keeps.throw f
  | .completion none => fire h id
  | .completion (some b) => Keeps.bind (fire h id) fun _ => runBackground h id b

theorem report (r : WebRequest) (g : List (String × Value) → List Diagnostic) :
    Keeps (World.CallsKept fs) (do Act.diagnose (g (← Act.ofExcept (Middleware.requestFields r)))) :=
  Keeps.bind (Keeps.ofExcept _) fun _ _ => id

theorem dispatch (h : env.Discreet fs) (m : Middleware) (r : WebRequest) (request : Nat) {next : Act Response}
    (hnext : Keeps (Aloof fs) next) :
    Keeps (World.CallsKept fs) (Middleware.dispatch env.watched m r request next) := by
  refine Keeps.ite (Keeps.bind (fun _ => id) fun stand => ?_) (Keeps.bind (of_aloof hnext) fun _ => Keeps.pure _)
  have hstart : Keeps (World.CallsKept fs) (Pipeline.start env.watched m.pipeline request stand) := fun w hw =>
    (Pipeline.quiet_start h hw m.pipeline request stand).1.calls hw
  refine Keeps.bind (Keeps.bind hstart.outcome fun started => ?_) fun _ => ?_
  · split
    · exact Keeps.pure _
    · exact report r _
  refine Keeps.bind (of_aloof hnext).outcome fun given => ?_
  cases given with
  | error f =>
    refine Keeps.bind ?_ fun _ => Keeps.throw f
    exact Keeps.bind (bindAt stand _) fun _ => Keeps.bind (fire h stand) fun _ => report r _
  | ok response => exact Keeps.bind (bindAt stand _) fun _ => Keeps.bind (standIn stand) fun _ => Keeps.pure _

theorem finishResponse (h : env.Discreet fs) (id : Nat) :
    Keeps (World.CallsKept fs) (Middleware.finishResponse env.watched id) := by
  refine Keeps.bind (standIn id) fun stand => ?_
  split
  · exact runBackground h id _
  · exact Keeps.pure _

end CallsKept

namespace Exchange

/-- **A request that goes through the middleware** brings no further functions. -/
theorem calls_through (h : env.Discreet fs) {x : Exchange} (hx : x.IsAloof fs) (m : Middleware) (hw : w.Calls fs) :
    ((x.through env.watched m).perform w).2.Calls fs := by
  have hkept : Keeps (World.CallsKept fs) (x.through env.watched m) := by
    refine Keeps.bind (Keeps.bind (Keeps.ofExcept _) fun _ _ => id) fun request => ?_
    refine Keeps.bind (CallsKept.dispatch h m x.request request (hx.next request)) fun out => ?_
    obtain ⟨stand, response⟩ := out
    refine Keeps.bind (CallsKept.of_aloof (hx.sending response)) fun _ => ?_
    cases stand with
    | none => exact Keeps.pure _
    | some stand => exact CallsKept.finishResponse h stand
  exact hkept w hw

theorem calls_run (h : env.Discreet fs) {xs : List Exchange} (hxs : ∀ x ∈ xs, x.IsAloof fs) (m : Middleware)
    (hw : w.Calls fs) : (run env.watched m xs w).Calls fs := by
  induction xs generalizing w with
  | nil => exact hw
  | cons x xs ih =>
    exact ih (fun y hy => hxs y (List.mem_cons_of_mem _ hy)) (calls_through h (hxs x List.mem_cons_self) m hw)

/-- **A request that the server makes takes what is stored on it.** -/
theorem of_perform_arrival {x : Exchange} {v : World} (h : x.arrival.perform w = (.ok request, v)) :
    v.hosts.next = request + 1 ∧ v.Takes request ∧ v.pipelines = w.pipelines := by
  obtain ⟨host, w', hmade, hadd⟩ := of_perform_bind_eq h
  rw [perform_ofExcept] at hmade
  obtain ⟨hmade, rfl⟩ := Prod.mk.inj hmade
  obtain ⟨hrequest, rfl⟩ := Prod.mk.inj hadd
  obtain rfl := Except.ok.inj hrequest
  let row : Host := { host with number := w.hosts.next }
  have hrow : (w.hosts.add row).get? w.hosts.next = some row := (Table.get?_add _ _ _).trans (if_pos rfl)
  refine ⟨List.length_append, ⟨row, hrow, ?_⟩, rfl⟩
  unfold WebRequest.toHost at hmade
  cases hscope : x.request.scope with
  | error f =>
    rw [hscope] at hmade
    cases hmade
  | ok scope =>
    rw [hscope] at hmade
    cases hmade
    rfl

end Exchange

namespace Middleware

/-- Disabled, the middleware is what comes next. -/
theorem perform_dispatch_of_disabled {m : Middleware} (hdisabled : m.enabled = false) (r : WebRequest) (request : Nat)
    (next : Act Response) (w : World) : (dispatch env m r request next).perform w =
      ((next.perform w).1.map fun response => (none, response), (next.perform w).2) := by
  have hnext : dispatch env m r request next = next >>= fun response => pure (none, response) := by
    unfold dispatch
    rw [if_neg (by rw [hdisabled]; exact Bool.false_ne_true)]
  rw [hnext, perform_bind]
  rcases next.perform w with ⟨f | response, w'⟩ <;> rfl

/-- A request that is logged gets a stand-in for its response, its log is started, and then what comes next is
answered. -/
theorem perform_dispatch {m : Middleware} (henabled : m.enabled = true) (r : WebRequest) (request : Nat)
    (next : Act Response) (w : World) : (dispatch env m r request next).perform w =
      (arrive env m r request w.hosts.next >>= fun _ => Act.outcome next >>= answer env r w.hosts.next).perform
        w.withStandIn := by
  have hadd : (Act.addHost (Host.ofHandle {})).perform w = (.ok w.hosts.next, w.withStandIn) := rfl
  unfold dispatch
  rw [if_pos henabled, perform_bind_ok hadd]

/-- **One record for a request, and what comes next is left alone**, after any requests and whatever hooks and fields
fail with, as long as they and the application leave logs to the middleware and hosts in service.

- Disabled, the middleware is what comes next, and nothing else.
- Enabled, it hands nothing over when the request arrives. What comes next is performed once, from where the arrival
  ends.
- If that fails, a log that was started is completed with a bare server error, and the failure is passed on.
- If it gives a response, that is passed on, and nothing is handed over until what follows it is run, whatever happens
  in between. Then a log that was started is completed with the response, and what the response has to run is run.
- Only a request whose address cannot be read is different: what comes next is not performed if no log was started, and
  its own failure is not passed on. -/
theorem dispatch_transparent (henv : env.Harmless fs) (hw : w.Calls fs) (m : Middleware) {before : List Exchange}
    (hbefore : ∀ y ∈ before, y.IsAloof fs) {x : Exchange} (hnext : ∀ request, Keeps (Aloof fs) (x.next request))
    {v : World} (harrival : x.arrival.perform (Exchange.run env.watched m before w) = (.ok request, v)) :
    let stand := v.hosts.next
    let log := ((Pipeline.start env.watched m.pipeline request stand).perform v.withStandIn).1.toOption
    let arrived := (arrive env.watched m x.request request stand).perform v.withStandIn
    let served := (dispatch env.watched m x.request request (x.next request)).perform v
    (m.enabled = false → served =
      (((x.next request).perform v).1.map fun r => (none, r), ((x.next request).perform v).2)) ∧
    (m.enabled = true → arrived.2.emissions = v.emissions ∧
      match arrived with
      | (.error g, v₁) => log = none ∧ x.request.address = .error g ∧ served = (.error g, v₁)
      | (.ok (), v₁) =>
        match (x.next request).perform v₁ with
        | (.error f, v₂) => ∃ v₃, served = (x.request.address.bind fun _ => .error f, v₃) ∧
            Completed env m.pipeline request Response.serverError v₂ v₃ log
        | (.ok r, v₂) => ∃ v₃, served = (.ok (some stand, r.behind log), v₃) ∧ v₃.emissions = v₂.emissions ∧
            ∀ v₄, Aloof fs v₃ v₄ → ∃ v₅, Completed env m.pipeline request r v₄ v₅ log ∧
              (finishResponse env.watched stand).perform v₄ =
                (r.background.forM (Handle.runBackground env.watched stand)).perform v₅) := by
  intro stand log arrived served
  obtain ⟨hnumber, htakes, hpipelines⟩ := Exchange.of_perform_arrival harrival
  have hne : request ≠ stand := by
    show request ≠ v.hosts.next
    omega
  refine ⟨fun hdisabled => perform_dispatch_of_disabled hdisabled _ _ _ v, fun henabled => ?_⟩
  have hcalls : v.withStandIn.Calls fs := by
    show v.Calls fs
    unfold World.Calls
    rw [hpipelines]
    exact Exchange.calls_run henv.toDiscreet hbefore m hw
  have hstands : v.withStandIn.StandsIn stand {} := ⟨_, (Table.get?_add _ _ _).trans (if_pos rfl), rfl, rfl⟩
  have htakes' : v.withStandIn.Takes request := by
    obtain ⟨host, hhost, hnone⟩ := htakes
    exact ⟨host, (Table.get?_add _ _ _).trans ((if_neg hne).trans hhost), hnone⟩
  obtain ⟨hserving, hcalls₁, hnotes₁, hfailed⟩ := perform_arrive henv hcalls hstands hne htakes' m x.request
  have hserved : served = _ := perform_dispatch henabled x.request request (x.next request) v
  clear_value served
  subst hserved
  refine ⟨hnotes₁, ?_⟩
  rcases hends : arrived with ⟨g | _, v₁⟩
  all_goals
    change (arrive env.watched m x.request request stand).perform v.withStandIn = _ at hends
    rw [hends] at hserving hcalls₁ hfailed
  · exact ⟨(hfailed g rfl).1, (hfailed g rfl).2, perform_bind_error hends _⟩
  dsimp only
  rw [perform_bind_ok hends, perform_bind_ok (perform_outcome _ _)]
  have haloof := hnext request v₁
  rcases hgiven : (x.next request).perform v₁ with ⟨f | r, v₂⟩
  all_goals
    rw [hgiven] at haloof
    obtain ⟨h, -, hserving₂⟩ := hserving.aloof haloof
  · exact perform_answer_error henv (haloof.calls hcalls₁) hserving₂ x.request f
  · exact perform_answer_ok henv (haloof.calls hcalls₁) hserving₂ x.request r

/-- An application with one pipeline that logs the status of responses, for a core that may fail. -/
def counting (failures : OrderedMap Failure) : World :=
  { cores := ⟨[.recording { failures }]⟩
    pipelines := ⟨[⟨0, { post := [{ name := "status", source := .field "status_code" }] }, .text "info"⟩]⟩ }

/-- A request whose answer has work of its own, and then one that fails: the log of the second is completed with a
server error, though it cannot be sent, and its failure is passed on. -/
theorem dispatch_transparent_outage :
    let env := Application.surroundings
    let w := counting ⟨[("send_log", .fault .runtime "down")]⟩
    let found : Exchange := ⟨{}, fun _ => pure { status := 404, headers := [], background := some (.task "mail") },
      fun _ => pure ()⟩
    let broken : Exchange := ⟨{ path := "/b" }, fun _ => throw (.fault .runtime "boom"), fun _ => pure ()⟩
    let v := (broken.arrival.perform (Exchange.run env.watched ⟨0, true⟩ [found] w)).2
    env.Harmless FieldFunction.IsPlain ∧ w.Calls FieldFunction.IsPlain ∧
    (∀ y ∈ [found], y.IsAloof FieldFunction.IsPlain) ∧
    (∀ request, Keeps (Aloof FieldFunction.IsPlain) (broken.next request)) ∧
    (broken.arrival.perform (Exchange.run env.watched ⟨0, true⟩ [found] w)).1 = .ok 2 ∧
    ∃ v₂ v₃, (dispatch env.watched ⟨0, true⟩ broken.request 2 (broken.next 2)).perform v =
        (.error (.fault .runtime "boom"), v₃) ∧
      Completed env 0 2 Response.serverError v₂ v₃ (some 1) := by
  intro env w found broken v
  have hcalls : w.Calls FieldFunction.IsPlain := by
    rintro n p hp phase f hf
    cases n with
    | succ n => cases hp
    | zero =>
      cases hp
      cases phase <;> exact absurd hf List.not_mem_nil
  have hfound : ∀ y ∈ [found], y.IsAloof FieldFunction.IsPlain := by
    intro y hy
    obtain rfl := List.mem_singleton.1 hy
    exact ⟨fun _ => Keeps.pure _, fun _ => Keeps.pure _⟩
  have hbroken (request : Nat) : Keeps (Aloof FieldFunction.IsPlain) (broken.next request) := Keeps.throw _
  have harrival : broken.arrival.perform (Exchange.run env.watched ⟨0, true⟩ [found] w) = (.ok 2, v) :=
    perform_of_toOption (by decide +kernel)
  obtain ⟨-, henabled⟩ :=
    dispatch_transparent Application.harmless hcalls ⟨0, true⟩ hfound hbroken harrival
  obtain ⟨-, hcases⟩ := henabled rfl
  have harrived := @perform_of_toOption _ v.withStandIn
    (arrive env.watched ⟨0, true⟩ broken.request 2 v.hosts.next) () (by decide +kernel)
  rw [harrived] at hcases
  obtain ⟨v₃, hserved, hcompleted⟩ := hcases
  have hreadable : broken.request.address.isOk = true := by decide +kernel
  have hlog : ((Pipeline.start env.watched 0 2 v.hosts.next).perform v.withStandIn).1.toOption = some 1 := by
    decide +kernel
  rw [hlog] at hcompleted
  refine ⟨Application.harmless, hcalls, hfound, hbroken, congrArg Prod.fst harrival, _, v₃, ?_, hcompleted⟩
  cases ha : broken.request.address with
  | error g =>
    rw [ha] at hreadable
    cases hreadable
  | ok a =>
    rw [ha] at hserved
    exact hserved

/-- The kind and the text of a failure. -/
def told {α : Type} : Except Failure α → Option (String × String)
  | .error f => some (f.kindName, f.text)
  | .ok _ => none

/-- With an address that cannot be read another failure is passed on than that of what comes next. If the start of the
log fails, too, nothing comes next. -/
theorem not_dispatch_transparent :
    let unnamed : Exchange := ⟨{ query := "ÿ" }, fun _ => throw (.fault .runtime "boom"), fun _ => pure ()⟩
    let served (failures : OrderedMap Failure) (next : Act Response) :=
      ((dispatch Application.surroundings ⟨0, true⟩ unnamed.request 0 next).perform
        (unnamed.arrival.perform (counting failures)).2).1
    let unreadable : String × String :=
      ("UnicodeDecodeError", "'utf-8' codec can't decode byte 0xff in position 0: invalid start byte")
    told (served {} (unnamed.next 0)) = some unreadable ∧
      ∀ next, told (served ⟨[("init_log", .fault .runtime "down")]⟩ next) = some unreadable := by
  intro unnamed served unreadable
  refine ⟨by decide +kernel, fun next => ?_⟩
  let w := (unnamed.arrival.perform (counting ⟨[("init_log", .fault .runtime "down")]⟩)).2
  have hserved : served ⟨[("init_log", .fault .runtime "down")]⟩ next = _ :=
    congrArg Prod.fst (perform_dispatch rfl unnamed.request 0 next w)
  have harrive : told ((arrive Application.surroundings ⟨0, true⟩ unnamed.request 0 w.hosts.next).perform
      (w.withStandIn)).1 = some unreadable := by decide +kernel
  rcases hends : (arrive Application.surroundings ⟨0, true⟩ unnamed.request 0 w.hosts.next).perform w.withStandIn with
    ⟨g | _, v⟩ <;> rw [hends] at harrive
  · rw [hserved, perform_bind_error hends]
    exact harrive
  · cases harrive

end Middleware

end ActivityLog
