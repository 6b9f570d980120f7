import ActivityLog.Proofs.Core.Correlation
import ActivityLog.Proofs.Core.Sending
import ActivityLog.Proofs.Lifecycle.Frame
import ActivityLog.Proofs.Traffic.Alone
import ActivityLog.Proofs.Traffic.Transparency

/-!
# Whose id a line carries

A request that arrives at a structured core gets a context of its own, which is active from then on. The line that is
written when the request is completed carries the correlation id of its record. If the record has none, it is the active
context that gives the id, and by then that may be the context of another request.

- `Unaware`: what neither arrives at nor leaves a context. Completions are so (`Event.step_unaware`), and so the active
  context is that of the last arrival (`run_activeId`).
- `StructuredCore.get?_sentEvent_correlationId`: the id of a line is that of the record, else that of the active
  context.
- `Pipeline.line_correlationId`: a line carries the id of its request if the record has one, and otherwise that of the
  request that has arrived last. `Pipeline.not_line_correlationId` are two requests of which the first one's line has
  the other's id.
-/

namespace ActivityLog

open Act OrderedMap

/-! ## Steps that leave contexts alone -/

/-- Structured cores stay so, and no further functions come to be called. -/
structure StaysStructured (fs : FieldFunction → Prop) (w w' : World) : Prop where
  calls : w.Calls fs → w'.Calls fs
  structured : ∀ n, (w.overridesOf? n).isSome → (w'.overridesOf? n).isSome

/-- Structured cores stay so, and the contexts are the same. -/
structure Unaware (fs : FieldFunction → Prop) (w w' : World) : Prop extends StaysStructured fs w w' where
  contexts : SameContexts w w'

variable {env : Surroundings} {fs : FieldFunction → Prop} {w w' w₀ : World}

instance : IsPreorder World (StaysStructured fs) where
  refl _ := ⟨id, fun _ => id⟩
  trans _ _ _ h h' := ⟨h'.calls ∘ h.calls, fun n => h'.structured n ∘ h.structured n⟩

instance : IsPreorder World (Unaware fs) where
  refl w := ⟨refl_of (StaysStructured fs) w, rfl⟩
  trans _ _ _ h h' := ⟨trans_of (StaysStructured fs) h.toStaysStructured h'.toStaysStructured,
    trans_of SameContexts h.contexts h'.contexts⟩

theorem Unaware.of_same (hp : w'.pipelines = w.pipelines) (hc : w'.cores = w.cores) (hx : SameContexts w w') :
    Unaware fs w w' := by
  refine ⟨⟨fun hcalls => ?_, fun n hn => ?_⟩, hx⟩
  · unfold World.Calls at hcalls ⊢
    rwa [hp]
  · unfold World.overridesOf? at hn ⊢
    rwa [hc]

theorem Unaware.host (id : Nat) (w : World) (h : Host) : Unaware fs w { w with hosts := w.hosts.set id h } :=
  .of_same rfl rfl rfl

theorem Unaware.activeId (h : Unaware fs w w') : w'.activeId = w.activeId := by
  unfold World.activeId
  rw [h.contexts]

/-- Who concerns no core leaves the structured ones so. -/
theorem Still.staysStructured {hosts : List Nat} (h : Still { hosts } w w') : StaysStructured fs w w' := by
  refine ⟨h.quiet.calls, fun n hn => ?_⟩
  rwa [h.overrides n (Option.some_ne_none n).symm]

/-! ## Cores that leave contexts alone -/

namespace Standard

variable (c : Nat)

/-- Notes leave contexts alone. -/
theorem sameContexts_note (call : List Value) (_ : Emission.ofCall? call = none) :
    Keeps SameContexts (Act.note call) := fun _ => rfl

theorem sameContexts_writeStaticFields (record : Record) (w : World) :
    SameContexts w ((core c).writeStaticFields record w).2.2 := keeps_writeStaticFields c sameContexts_note record w

theorem sameContexts_sendLog (level : Value) (record : Record) : Keeps SameContexts ((core c).sendLog level record) :=
  keeps_sendLog c sameContexts_note (fun _ _ => rfl) (fun _ _ _ => rfl) level record

theorem sameContexts_overrideField (name : String) (value : Value) :
    Keeps SameContexts ((core c).overrideField name value) :=
  keeps_overrideField c sameContexts_note (fun _ _ _ _ _ => rfl) name value

theorem unaware_writeStaticFields (record : Record) (w : World) :
    Unaware fs w ((core c).writeStaticFields record w).2.2 :=
  ⟨(still_writeStaticFields (s := {}) c record w).staysStructured, sameContexts_writeStaticFields c record w⟩

theorem unaware_sendLog (level : Value) (record : Record) : Keeps (Unaware fs) ((core c).sendLog level record) :=
  fun w => ⟨(still_sendLog (s := {}) c level record w).staysStructured, sameContexts_sendLog c level record w⟩

/-- Overriding a field of a core leaves it structured. -/
theorem unaware_overrideField (name : String) (value : Value) :
    Keeps (Unaware fs) ((core c).overrideField name value) := by
  intro w
  have hstill := still_overrideField c name value w
  refine ⟨⟨hstill.quiet.calls, fun n hn => ?_⟩, sameContexts_overrideField c name value w⟩
  by_cases hcore : c = n
  · subst hcore
    obtain ⟨overrides, ho⟩ := Option.isSome_iff_exists.1 hn
    rw [(perform_overrideField ho name value).2]
    rfl
  · rwa [hstill.overrides n fun h => hcore (Option.some.inj h)]

end Standard

/-! ## Events -/

/-- The cores are those of the application, and functions of `fs` leave contexts alone, as well as logs. -/
structure Surroundings.Unaware (env : Surroundings) (fs : FieldFunction → Prop) : Prop where
  core : env.core = Standard.core
  quiet : ∀ parties f, fs f → ∀ record w, Quiet fs none w (env.call parties f record w).2.2
  unaware : ∀ parties f, fs f → ∀ record w, ActivityLog.Unaware fs w (env.call parties f record w).2.2

theorem Surroundings.Unaware.discreet (h : env.Unaware fs) : env.Discreet fs := Standard.discreet h.core h.quiet

/-- A log is walked without a look at contexts. -/
theorem Surroundings.Unaware.frames (h : env.Unaware fs) : env.Frames fs (ActivityLog.Unaware fs) where
  seen _ _ _ _ _ := .of_same rfl rfl rfl
  diagnostics _ _ := .of_same rfl rfl rfl
  setLog _ _ _ := .of_same rfl rfl rfl
  addLog _ _ := .of_same rfl rfl rfl
  withRecord _ _ _ := .of_same rfl rfl rfl
  noted _ _ := .of_same rfl rfl rfl
  call := h.unaware

namespace Event

/-- The events by which a pipeline serves requests: these arrive and are completed. Fields may be overridden. -/
def Serves (pipeline : Nat) : Event → Prop
  | .start n _ _ => n = pipeline
  | .completion _ _ | .override _ _ _ => True
  | _ => False

/-- A request arrives. -/
def isArrival : Event → Bool
  | .start _ _ _ => true
  | _ => false

variable {pipeline : Nat} {e : Event}

/-- **Only an arrival changes contexts.** -/
theorem step_unaware (h : env.Unaware fs) (hw : w.Calls fs) (he : e.Serves pipeline) (harrival : e.isArrival = false) :
    ActivityLog.Unaware fs w (e.step env.watched w) := by
  cases e with
  | start n q r => cases harrival
  | completion id arguments =>
    refine h.frames.complete (fun c record w => ?_) (fun c level record => ?_) Unaware.host hw id
    · exact h.core ▸ Standard.unaware_writeStaticFields c record w
    · exact h.core ▸ Standard.unaware_sendLog c level record
  | override c name value =>
    have hcore : ActivityLog.Unaware fs w (((env.core c).overrideField name value).perform w).2 :=
      h.core ▸ Standard.unaware_overrideField c name value w
    exact hcore
  | _ => exact he.elim

/-- Structured cores stay so while requests are served. -/
theorem step_staysStructured (h : env.Unaware fs) (hw : w.Calls fs) (he : e.Serves pipeline) :
    StaysStructured fs w (e.step env.watched w) := by
  have hframes : env.Frames fs (StaysStructured fs) := h.frames.mono fun _ _ hu => hu.toStaysStructured
  cases e with
  | start n q r =>
    refine hframes.start (fun _ _ _ => (Unaware.host _ _ _).toStaysStructured) (fun c target => ?_) (fun c => ?_)
      (fun _ _ hs => hs.calls) hw n q r
    · exact h.core ▸ (Standard.still_bindLogFunctions c target).mono fun _ _ hs => hs.staysStructured
    · exact h.core ▸ (Standard.still_initLog (s := {}) c).mono fun _ _ hs => hs.staysStructured
  | _ => exact (step_unaware h hw he rfl).toStaysStructured

end Event

/-! ## The active context -/

/-- The id that is active after some events if only arrivals change it: that after the last arrival, or the one that
was active before. -/
def latestId (env : Surroundings) : List Event → World → Option Value → Option Value
  | [], _, latest => latest
  | e :: es, w, latest =>
    let w := e.step env w
    latestId env es w (if e.isArrival then w.activeId else latest)

/-- Without an arrival the id stays. -/
theorem latestId_of_no_arrival {es : List Event} (hes : ∀ e ∈ es, e.isArrival = false) (w : World)
    (latest : Option Value) : latestId env es w latest = latest := by
  induction es generalizing w with
  | nil => rfl
  | cons e es ih =>
    have he := hes e List.mem_cons_self
    simp only [latestId, he]
    exact ih (fun x hx => hes x (List.mem_cons_of_mem _ hx)) _

/-- **The active context is that of the last arrival.** -/
theorem run_activeId (h : env.Unaware fs) (hw : w.Calls fs) {pipeline : Nat} {es : List Event}
    (hes : ∀ e ∈ es, e.Serves pipeline) :
    (run env.watched es w).activeId = latestId env.watched es w w.activeId := by
  induction es generalizing w with
  | nil => rfl
  | cons e es ih =>
    have he := hes e List.mem_cons_self
    have hrest := ih ((e.step_steady h.discreet hw).1.calls hw) fun x hx => hes x (List.mem_cons_of_mem _ hx)
    refine hrest.trans ?_
    cases harrival : e.isArrival with
    | true => simp only [latestId, harrival, if_true]
    | false =>
      rw [(Event.step_unaware h hw he harrival).activeId]
      simp only [latestId, harrival, Bool.false_eq_true, if_false]

/-- Structured cores stay so while requests are served. -/
theorem run_staysStructured (h : env.Unaware fs) (hw : w.Calls fs) {pipeline : Nat} {es : List Event}
    (hes : ∀ e ∈ es, e.Serves pipeline) : StaysStructured fs w (run env.watched es w) := by
  induction es generalizing w with
  | nil => exact refl_of (StaysStructured fs) w
  | cons e es ih =>
    have hstep := Event.step_staysStructured h hw (hes e List.mem_cons_self)
    exact trans_of (StaysStructured fs) hstep
      (ih (hstep.calls hw) fun x hx => hes x (List.mem_cons_of_mem _ hx))

namespace Pipeline

variable {pipeline q r id : Nat} {p : Pipeline}

/-- The core's helpers are put on a request that arrives, and nothing before that fails. -/
def Binds (env : Surroundings) (pipeline q r : Nat) (w : World) : Prop :=
  ∃ id v, (opened env pipeline q r).perform w = (.ok id, v) ∧ ((arrive env id).perform v).1 = .ok ()

/-- The helpers of a structured core are put on a request with a context that is active from then on. -/
theorem activeId_of_arrive (h : env.Unaware fs) (hw : w.Calls fs) {l : Lifecycle}
    (hl : w.lifecycles.get? id = some l) (hp : w.pipelines.get? l.pipeline = some p)
    (hc : (w.overridesOf? p.core).isSome) (harrive : (arrive env.watched id).perform w = (.ok (), w')) :
    ∃ s, w'.activeId = some (.text s) := by
  have hpass : Quiet fs (some id) w (l.resolved env.watched id .pre p w) := Lifecycle.quiet_resolved h.discreet hw hl hp
  have hcores : Unaware fs w (l.resolved env.watched id .pre p w) := h.frames.resolved hw hp id .pre
  obtain ⟨record, state, hrow, -⟩ := hpass.lifecycles id l hl
  unfold arrive at harrive
  rw [perform_bind_ok (Lifecycle.perform_resolvePre hl hp), perform_bind_ok (perform_lifecycle hrow)] at harrive
  obtain ⟨_, v, hstore, hbind⟩ := of_perform_bind_eq harrive
  have hquiet : Quiet fs none (l.resolved env.watched id .pre p w) _ :=
    Quiet.writeField l.request.target recordField (.shared (.record id) false) _
  have hkept := h.frames.writeField Unaware.host l.request.target recordField (.shared (.record id) false)
    (l.resolved env.watched id .pre p w)
  rw [hstore] at hquiet hkept
  rw [perform_bind_ok (perform_pipeline (hquiet.pipelines _ _ (hpass.pipelines _ _ hp)))] at hbind
  -- The core is a structured one at the time when its helpers are asked for.
  obtain ⟨overrides, ho⟩ := Option.isSome_iff_exists.1 (hkept.structured _ (hcores.structured _ hc))
  obtain ⟨c, hc', -⟩ := World.structured_of_overridesOf? ho
  have hcore : ((env.watched.core p.core).bindLogFunctions l.request.target).perform v =
      (StructuredCore.bindLogFunctions l.request.target).perform v := by
    show ((env.core p.core).bindLogFunctions l.request.target).perform v = _
    rw [h.core]
    exact perform_bind_ok (Standard.perform_current hc') _
  obtain ⟨_, _, brought, v', context, v'', -, -, hstarted, hcontexts⟩ :=
    StructuredCore.of_perform_bindLogFunctions (hcore.symm.trans hbind)
  obtain ⟨s, hcurrent, -⟩ := of_perform_startRequest hstarted
  refine ⟨s, ?_⟩
  rw [World.activeId, hcontexts, hcurrent]

/-- **With its helpers a request gets a context of its own**, which is active. -/
theorem activeId_of_binds (h : env.Unaware fs) (hw : w.Calls fs) (hp : w.pipelines.get? pipeline = some p)
    (hc : (w.overridesOf? p.core).isSome) (hbinds : Binds env.watched pipeline q r w) :
    ∃ s, ((start env.watched pipeline q r).perform w).2.activeId = some (.text s) := by
  obtain ⟨id, v, hopened, hbound⟩ := hbinds
  obtain ⟨l, hl, rfl⟩ := get?_opened hopened
  have hquiet := quiet_opened h.discreet l.pipeline q r w
  rw [hopened] at hquiet
  have hv := hquiet.calls hw
  have hstructured : StaysStructured fs w v := by
    have hkept := keeps_opened (R := StaysStructured fs) (fun _ _ _ => (Unaware.host _ _ _).toStaysStructured)
      (fun _ _ => (h.frames.addLog _ _).toStaysStructured)
      (fun c => h.core ▸ (Standard.still_initLog (s := {}) c).mono fun _ _ hs => hs.staysStructured) l.pipeline q r w
    rwa [hopened] at hkept
  have harrive : (arrive env.watched id).perform v = (.ok (), ((arrive env.watched id).perform v).2) :=
    Prod.ext hbound rfl
  obtain ⟨s, hs⟩ := activeId_of_arrive h hv hl (hquiet.pipelines _ _ hp) (hstructured.structured _ hc) harrive
  refine ⟨s, ?_⟩
  have hafter : (arrive env.watched id).after .preResolutionFailed v = ((arrive env.watched id).perform v).2 := by
    unfold Act.after
    rw [harrive]
  -- Registering with the response leaves contexts alone.
  have hrest : Keeps (Unaware fs) (Lifecycle.awaitCompletion id >>= fun _ => pure id) :=
    Keeps.bind (h.frames.awaitCompletion Unaware.host id) fun _ => Keeps.pure _
  rw [start_eq, perform_bind_ok hopened, perform_begin, hafter, (hrest _).activeId, hs]

end Pipeline

/-- The core's helpers are put on a request that arrives; other events do as they like. -/
def Event.Binds (env : Surroundings) (w : World) : Event → Prop
  | .start pipeline q r => Pipeline.Binds env pipeline q r w
  | _ => True

/-- All requests that arrive with some events get the core's helpers. -/
def AllBind (env : Surroundings) : List Event → World → Prop
  | [], _ => True
  | e :: es, w => e.Binds env w ∧ AllBind env es (e.step env w)

/-- **From the first request on some context is active**, and its id is a text. -/
theorem run_activeId_text (h : env.Unaware fs) (hw : w.Calls fs) {pipeline : Nat} {p : Pipeline}
    (hp : w.pipelines.get? pipeline = some p) (hc : (w.overridesOf? p.core).isSome) {es : List Event}
    (hes : ∀ e ∈ es, e.Serves pipeline) (hbind : AllBind env.watched es w) {s : String}
    (hs : w.activeId = some (.text s)) : ∃ s, (run env.watched es w).activeId = some (.text s) := by
  induction es generalizing w s with
  | nil => exact ⟨s, hs⟩
  | cons e es ih =>
    have he := hes e List.mem_cons_self
    obtain ⟨hfirst, hrest⟩ := hbind
    have hsteady := (e.step_steady h.discreet hw).1
    have hstructured := e.step_staysStructured h hw he
    have hactive : ∃ s, (e.step env.watched w).activeId = some (.text s) := by
      cases e with
      | start n q r =>
        obtain rfl : n = pipeline := he
        exact Pipeline.activeId_of_binds h hw hp hc hfirst
      | _ => exact ⟨s, (Event.step_unaware h hw he rfl).activeId.trans hs⟩
    obtain ⟨s', hs'⟩ := hactive
    exact ih (hsteady.calls hw) (hsteady.pipelines _ _ hp) (hstructured.structured _ hc)
      (fun x hx => hes x (List.mem_cons_of_mem _ hx)) hrest hs'

/-! ## The id of an event -/

theorem OrderedMap.mem_of_lookup_reverse {β : Type} {entries : List (String × β)} {name : String} {v : β}
    (h : entries.reverse.lookup name = some v) : (name, v) ∈ entries := by
  obtain ⟨before, after, heq, -⟩ := List.lookup_eq_some_iff.1 h
  rw [← List.mem_reverse, heq]
  exact List.mem_append_right _ List.mem_cons_self

namespace StructuredCore

variable {record event : Record} {level : Level}

/-- A field of a record stands in its event, the last one of a name. -/
theorem get?_named_of_ne {name : String} (hname : name ≠ "event") :
    (named record).get? name = record.entries.reverse.lookup name := by
  have hfields : (({} : Record).insertAll (record.erase "event").entries).get? name =
      record.entries.reverse.lookup name := by
    have herase : (record.erase "event").entries.reverse =
        ((⟨record.entries.reverse⟩ : Record).erase "event").entries := (List.filter_reverse ..).symm
    rw [get?_insertAll, herase]
    exact Option.or_none.trans ((get?_erase _ _ _).trans (if_neg hname))
  unfold named Event.assemble
  dsimp only
  split
  · exact hfields
  · rw [get?_insert_of_ne _ _ hname, hfields]

/-- **The id of a line** is that of the record, else that of the active context. -/
theorem get?_sentEvent_correlationId (h : sentEvent level record w = .ok event) : event.get? "correlation_id" =
    (((record.entries.reverse.lookup "correlation_id").map Event.decoded).or w.activeId).map w.reveal := by
  obtain ⟨_, -, _, -, finished, hcomplete, rfl⟩ := of_sentEvent h
  rw [get?_map, Event.get?_correlationId_of_complete hcomplete, get?_named_of_ne (by decide)]

/-- Where a record has no other id than its own, its line has that, unless the record has none. -/
theorem correlationId_of_sentEvent (h : sentEvent level record w = .ok event) {own last : String}
    (hactive : w.activeId = some (.text last)) (hown : ∀ v, ("correlation_id", v) ∈ record.entries → v = .text own) :
    event.get? "correlation_id" = some (.text (if "correlation_id" ∈ record.keys then own else last)) := by
  rw [get?_sentEvent_correlationId h, hactive]
  cases hid : record.entries.reverse.lookup "correlation_id" with
  | some v =>
    have hmem := mem_of_lookup_reverse hid
    obtain rfl := hown v hmem
    have hkeys : "correlation_id" ∈ record.keys := List.mem_map.2 ⟨_, hmem, rfl⟩
    rw [if_pos hkeys]
    exact congrArg some (w.reveal_text own)
  | none =>
    have hfree : "correlation_id" ∉ record.keys := fun hmem => by
      have hsome : (record.entries.reverse.lookup "correlation_id").isSome = true := by
        rw [lookup_isSome_iff, List.map_reverse, List.mem_reverse]
        exact hmem
      rw [hid] at hsome
      cases hsome
    rw [if_neg hfree]
    exact congrArg some (w.reveal_text last)

end StructuredCore

/-! ## The record that is sent -/

/-- The same lines. -/
def SameLines (w w' : World) : Prop := w'.lines = w.lines

instance : IsPreorder World SameLines where
  refl _ := rfl
  trans _ _ _ h h' := Eq.trans h' h

namespace Lifecycle

variable {id : Nat} {p : Pipeline} {l : Lifecycle}

/-- The record that the core is asked to send: what the pass of completion makes of the log's, overlaid with
overrides. -/
def sentRecord (env : Surroundings) (id : Nat) (p : Pipeline) (overrides : Record) (l : Lifecycle) (w : World) :
    Record :=
  (l.passed env id .post p.config w).record.insertAll overrides.entries

/-- The state in which the core is asked to send it. -/
def sentAt (env : Surroundings) (id : Nat) (p : Pipeline) (overrides : Record) (l : Lifecycle) (w : World) : World :=
  let record := (l.passed env id .post p.config w).record
  let sent := l.sentRecord env id p overrides w
  (((l.resolved env id .post p w).noted (.overriding record)).withRecord id sent).noted (.sending p.level sent)

theorem activeId_sentAt (overrides : Record) :
    (l.sentAt env id p overrides w).activeId = (l.resolved env id .post p w).activeId := by
  unfold sentAt
  generalize l.resolved env id .post p w = v
  rfl

theorem overridesOf?_sentAt (overrides : Record) (n : Nat) :
    (l.sentAt env id p overrides w).overridesOf? n = (l.resolved env id .post p w).overridesOf? n := by
  unfold sentAt
  generalize l.resolved env id .post p w = v
  rfl

/-- **The lines of a completion**: those that the core writes when it is asked to send. -/
theorem lines_released (h : env.Unaware fs) {overrides : Record}
    (ho : (l.resolved env id .post p w).overridesOf? p.core = some overrides) :
    (l.released env.watched id p w).lines = (((Standard.core p.core).sendLog p.level
      (l.sentRecord env id p overrides w)).perform (l.sentAt env id p overrides w)).2.lines := by
  have hnoted (e : Emission) : ((l.resolved env id .post p w).noted e).overridesOf? p.core = some overrides := ho
  have hwrite : (env.watched.core p.core).writeStaticFields (l.passed env id .post p.config w).record
      (l.resolved env id .post p w) = (.ok (), l.sentRecord env id p overrides w,
        (l.resolved env id .post p w).noted (.overriding (l.passed env id .post p.config w).record)) := by
    show (env.core p.core).writeStaticFields _ (World.noted _ _) = _
    rw [h.core]
    exact Standard.writeStaticFields_eq (hnoted _) _
  show ((emit env.watched p (some id) (l.passed env id .post p.config w).record).run
    (l.resolved env id .post p w)).2.lines = _
  rw [run_emit, hwrite, ← h.core]
  rfl

end Lifecycle

/-- Scripts and built-in functions leave contexts, logs and cores alone. -/
theorem Application.unaware : surroundings.Unaware FieldFunction.IsPlain where
  core := rfl
  quiet parties f hf record w := by
    obtain ⟨_, _, _, _, hw, -⟩ := drawn_of_isPlain parties hf record w
    rw [hw]
    exact Quiet.of_same rfl rfl rfl
  unaware parties f hf record w := by
    obtain ⟨_, _, _, _, hw, -⟩ := drawn_of_isPlain parties hf record w
    rw [hw]
    exact .of_same rfl rfl rfl

/-! ## Attribution -/

namespace Pipeline

variable {pipeline q r id : Nat} {p : Pipeline}

/-- The line of a completion, where some context is active. -/
theorem line_of_waiting (h : env.Unaware fs) (hw : w.Calls fs) {l : Lifecycle} (hl : w.lifecycles.get? id = some l)
    (hs : l.state = .awaitingCompletion) (hp : w.pipelines.get? l.pipeline = some p)
    (hc : (w.overridesOf? p.core).isSome) {last : String} (hlast : w.activeId = some (.text last))
    (arguments : List Value) :
    let w' := (Event.completion id arguments).step env.watched w
    ∃ overrides, (l.resolved env id .post p w).overridesOf? p.core = some overrides ∧
      let record := l.sentRecord env id p overrides w
      let u := l.sentAt env id p overrides w
      w'.emissions = w.emissions ++ [.overriding (l.passed env id .post p.config w).record, .sending p.level record] ∧
      (w'.lines = u.lines ∨ ∃ event text chain,
        StructuredCore.sentEvent (Level.orInfo p.level) record u = .ok event ∧
        (u.layoutOf chain).render event = .ok text ∧
        w'.lines = u.lines ++ [⟨StructuredCore.loggerName, Level.orInfo p.level, text⟩]) ∧
      ∀ own : String, (∀ v, ("correlation_id", v) ∈ record.entries → v = .text own) →
        ∀ event, StructuredCore.sentEvent (Level.orInfo p.level) record u = .ok event →
          event.get? "correlation_id" = some (.text (if "correlation_id" ∈ record.keys then own else last)) := by
  intro w'
  -- The pass of completion leaves contexts and the core alone, and the core gets the record after that.
  have hresolved : Unaware fs w (l.resolved env id .post p w) := h.frames.resolved hw hp id .post
  obtain ⟨overrides, ho⟩ := Option.isSome_iff_exists.1 (hresolved.structured _ hc)
  obtain ⟨hstep, hnotes, -⟩ := Event.step_of_waiting h.discreet hw hl hs hp arguments
  have hlines : (l.released env.watched id p w).lines = _ := Lifecycle.lines_released h ho
  have hwrite : Keeps SameLines (writeField l.request.target recordField (.shared (.record id) true)) :=
    Keeps.writeField (fun _ _ => rfl) (fun _ _ => rfl) _ _
  have hsame : w'.lines = (l.released env.watched id p w).lines := by
    rw [show w' = _ from hstep]
    exact hwrite _
  have hattempt : l.attempt env id p w =
      [.overriding (l.passed env id .post p.config w).record, .sending p.level (l.sentRecord env id p overrides w)] :=
    Lifecycle.handedOver_eq h.core (w := l.resolved env id .post p w) ho _
  have hactive : (l.sentAt env id p overrides w).activeId = some (.text last) := by
    rw [Lifecycle.activeId_sentAt, hresolved.activeId, hlast]
  have hcore : (l.sentAt env id p overrides w).overridesOf? p.core = some overrides := by
    rw [Lifecycle.overridesOf?_sentAt, ho]
  obtain ⟨c, hcore, -⟩ := World.structured_of_overridesOf? hcore
  refine ⟨overrides, ho, ?_, ?_, fun own hown event hevent => ?_⟩
  · rw [hnotes, hattempt]
  · rw [hsame, hlines]
    refine (StructuredCore.lines_sendLog hcore p.level (l.sentRecord env id p overrides w)).imp_right ?_
    rintro ⟨event, text, hevent, htext, hline⟩
    exact ⟨event, text, _, hevent, htext, hline⟩
  · exact StructuredCore.correlationId_of_sentEvent hevent hactive hown

/-- **Whose id a line carries.** Requests arrive at a pipeline with a structured core and are completed, in any order,
and fields may be overridden meanwhile; all arrivals get the core's helpers. Field functions may do as they like with
the record, as long as they leave logs and contexts alone. Take one request, and let it be completed at some time. Then

- what is handed over is what the pass of completion makes of the record, with the overrides in force;
- there is at most one line of it, which shows an event;
- unless a field or an override gives the record another correlation id than that of the request's own context, the
  event carries that one if the record has it at all. Otherwise the event carries the id of the context of the request
  that has arrived last, which is another one as soon as any has arrived in between. -/
theorem line_correlationId (h : env.Unaware fs) (hw : w₀.Calls fs) (hp : w₀.pipelines.get? pipeline = some p)
    (hc : (w₀.overridesOf? p.core).isSome)
    (hstart : ((start env.watched pipeline q r).perform w₀).1 = .ok id) (hbinds : Binds env.watched pipeline q r w₀)
    {es : List Event} (hes : ∀ e ∈ es, e.Serves pipeline)
    (hall : AllBind env.watched es ((Event.start pipeline q r).step env.watched w₀))
    (hwaits : ∀ e ∈ es, e.completed? ≠ some id) (arguments : List Value) :
    let w₁ := (Event.start pipeline q r).step env.watched w₀
    let w₂ := run env.watched es w₁
    let w₃ := (Event.completion id arguments).step env.watched w₂
    ∃ own last l overrides, w₁.activeId = some (.text own) ∧
      latestId env.watched es w₁ (some (.text own)) = some (.text last) ∧
      ((∀ e ∈ es, e.isArrival = false) → last = own) ∧
      w₂.lifecycles.get? id = some l ∧ l.state = .awaitingCompletion ∧
      (l.resolved env id .post p w₂).overridesOf? p.core = some overrides ∧
      let record := l.sentRecord env id p overrides w₂
      let u := l.sentAt env id p overrides w₂
      w₃.emissions = w₂.emissions ++
        [.overriding (l.passed env id .post p.config w₂).record, .sending p.level record] ∧
      (w₃.lines = u.lines ∨ ∃ event text chain,
        StructuredCore.sentEvent (Level.orInfo p.level) record u = .ok event ∧
        (u.layoutOf chain).render event = .ok text ∧
        w₃.lines = u.lines ++ [⟨StructuredCore.loggerName, Level.orInfo p.level, text⟩]) ∧
      ((∀ v, ("correlation_id", v) ∈ record.entries → v = .text own) →
        ∀ event, StructuredCore.sentEvent (Level.orInfo p.level) record u = .ok event →
          event.get? "correlation_id" = some (.text (if "correlation_id" ∈ record.keys then own else last))) := by
  intro w₁ w₂ w₃
  -- The request has its own context, and its log waits.
  obtain ⟨own, hown⟩ := activeId_of_binds h hw hp hc hbinds
  obtain ⟨hquiet, hreturned⟩ := quiet_start h.discreet hw pipeline q r
  obtain ⟨-, -, l, hl, hstate, hpipeline, -⟩ := hreturned id hstart
  have hstructured := Event.step_staysStructured (e := .start pipeline q r) h hw rfl
  change w₁.activeId = _ at hown
  change Quiet fs none w₀ w₁ at hquiet
  change w₁.lifecycles.get? id = some l at hl
  change StaysStructured fs w₀ w₁ at hstructured
  have hw₁ := hquiet.calls hw
  have hp₁ := hquiet.pipelines _ _ hp
  have hc₁ := hstructured.structured _ hc
  change AllBind env.watched es w₁ at hall
  clear_value w₁
  -- Up to the completion the log goes on waiting, and the active context is that of the last arrival.
  obtain ⟨last, hlast⟩ := run_activeId_text h hw₁ hp₁ hc₁ hes hall hown
  have hlatest : latestId env.watched es w₁ (some (.text own)) = some (.text last) := by
    rw [← hown, ← run_activeId h hw₁ hes, hlast]
  obtain ⟨record₂, hl₂⟩ := run_steady h.discreet hw₁ hwaits hl
  obtain ⟨hw₂, hpipelines⟩ := run_pipelines h.discreet hw₁ es
  have hp₂ := hpipelines _ _ hp₁
  have hc₂ := (run_staysStructured h hw₁ hes).structured _ hc₁
  change w₂.activeId = _ at hlast
  change w₂.lifecycles.get? id = _ at hl₂
  change w₂.Calls fs at hw₂
  change w₂.pipelines.get? pipeline = _ at hp₂
  change (w₂.overridesOf? p.core).isSome at hc₂
  clear_value w₂
  obtain ⟨overrides, ho, hnotes, hlines, hid⟩ :=
    line_of_waiting h hw₂ hl₂ hstate (hpipeline ▸ hp₂) hc₂ hlast arguments
  refine ⟨own, last, _, overrides, hown, hlatest, fun hnone => ?_, hl₂, hstate, ho, hnotes, hlines, hid own⟩
  rw [latestId_of_no_arrival hnone] at hlatest
  exact (Value.text.inj (Option.some.inj hlatest)).symm

/-- An application with a structured core without fields, and two requests with their responses. -/
def twoRequests : World :=
  let message : Host := { nature := .dict, items := ⟨[("headers", .dict [])]⟩ }
  { hosts := ⟨[message, message, message, message]⟩
    cores := ⟨[.structured { config := {} }]⟩
    pipelines := ⟨[⟨0, {}, .text "info"⟩]⟩
    logging := some StructuredCore.fromInfo }

theorem calls_twoRequests : twoRequests.Calls FieldFunction.IsPlain := by
  rintro n p hp phase f hf
  cases n with
  | succ n => cases hp
  | zero =>
    cases hp
    cases phase <;> exact absurd hf List.not_mem_nil

/-- A request that arrives while another one waits, which is completed first: the line has the number of its request. -/
theorem line_correlationId_nested :
    let env := Application.surroundings
    let w₀ := (Event.start 0 2 3).step env.watched twoRequests
    let w₁ := (Event.start 0 0 1).step env.watched w₀
    let w₂ := run env.watched [.completion 0 []] w₁
    let w₃ := (Event.completion 1 []).step env.watched w₂
    env.Unaware FieldFunction.IsPlain ∧ w₀.Calls FieldFunction.IsPlain ∧
    ((start env.watched 0 0 1).perform w₀).1 = .ok 1 ∧ Binds env.watched 0 0 1 w₀ ∧
    ∃ own u event, w₁.activeId = some (.text own) ∧
      w₃.emissions = w₂.emissions ++ [.overriding {}, .sending (.text "info") {}] ∧
      StructuredCore.sentEvent .info {} u = .ok event ∧ event.get? "correlation_id" = some (.text own) := by
  intro env w₀ w₁ w₂ w₃
  have hsteady := (Event.step_steady Application.unaware.discreet calls_twoRequests (.start 0 2 3)).1
  have hcalls : w₀.Calls FieldFunction.IsPlain := hsteady.calls calls_twoRequests
  have hp : w₀.pipelines.get? 0 = some ⟨0, {}, .text "info"⟩ := hsteady.pipelines 0 _ rfl
  have hc : (w₀.overridesOf? 0).isSome := by decide +kernel
  have hstart : (start env.watched 0 0 1).perform w₀ = (.ok 1, w₁) := perform_of_toOption (by decide +kernel)
  have hopened : (opened env.watched 0 0 1).perform w₀ = (.ok 1, _) := perform_of_toOption (by decide +kernel)
  have harrive : (arrive env.watched 1).perform ((opened env.watched 0 0 1).perform w₀).2 = (.ok (), _) :=
    perform_of_toOption (by decide +kernel)
  have hbinds : Binds env.watched 0 0 1 w₀ := ⟨1, _, hopened, congrArg Prod.fst harrive⟩
  have hserves : ∀ e ∈ [Event.completion 0 []], e.Serves 0 := by simp [Event.Serves]
  have hnone : ∀ e ∈ [Event.completion 0 []], e.isArrival = false := by simp [Event.isArrival]
  have hwaits : ∀ e ∈ [Event.completion 0 []], e.completed? ≠ some 1 := by simp [Event.completed?]
  obtain ⟨own, last, l, overrides, hown, -, hlast, hl, -, ho, hnotes, -, hid⟩ := line_correlationId Application.unaware
    hcalls hp hc (congrArg Prod.fst hstart) hbinds hserves ⟨trivial, trivial⟩ hwaits []
  obtain rfl := hlast hnone
  have hoverrides : ((w₂.lifecycles.get? 1).bind fun l =>
      (l.resolved env 1 .post ⟨0, {}, .text "info"⟩ w₂).overridesOf? 0).map (·.entries.length) = some 0 := by
    decide +kernel
  have hrecord : (w₂.lifecycles.get? 1).map (fun l => (l.passed env 1 .post {} w₂).record.entries.length) = some 0 := by
    decide +kernel
  have hsent : (w₂.lifecycles.get? 1).map (fun l => (StructuredCore.sentEvent .info {}
      (l.sentAt env 1 ⟨0, {}, .text "info"⟩ {} w₂)).toOption.isSome) = some true := by
    decide +kernel
  -- Nothing is in the record, and nothing overrides it.
  have hempty {m : Record} (h : m.entries.length = 0) : m = {} := congrArg OrderedMap.mk (List.length_eq_zero_iff.1 h)
  rw [hl, Option.bind_some, ho] at hoverrides
  obtain rfl := hempty (Option.some.inj hoverrides)
  rw [hl] at hrecord hsent
  have hpassed : (l.passed env 1 .post {} w₂).record = {} := hempty (Option.some.inj hrecord)
  have hsame : l.sentRecord env 1 ⟨0, {}, .text "info"⟩ {} w₂ = {} := hpassed
  rw [hpassed, hsame] at hnotes
  rw [hsame] at hid
  obtain ⟨event, hevent⟩ : ∃ event, StructuredCore.sentEvent .info {}
      (l.sentAt env 1 ⟨0, {}, .text "info"⟩ {} w₂) = .ok event := by
    cases hr : StructuredCore.sentEvent .info {} (l.sentAt env 1 ⟨0, {}, .text "info"⟩ {} w₂) with
    | error f =>
      rw [Option.map_some, hr] at hsent
      cases hsent
    | ok event => exact ⟨event, rfl⟩
  refine ⟨Application.unaware, hcalls, congrArg Prod.fst hstart, hbinds, last, _, event, hown, hnotes, hevent, ?_⟩
  exact hid (fun v hv => absurd hv List.not_mem_nil) event hevent

/-- **A line can carry the id of another request**: without a field for the id, that of the request that has arrived
last. -/
theorem not_line_correlationId :
    let env := Application.surroundings
    let w₁ := (Event.start 0 0 1).step env.watched twoRequests
    let w₂ := run env.watched [.start 0 2 3] w₁
    let w₃ := (Event.completion 0 []).step env.watched w₂
    env.Unaware FieldFunction.IsPlain ∧ twoRequests.Calls FieldFunction.IsPlain ∧
    ((start env.watched 0 0 1).perform twoRequests).1 = .ok 0 ∧ Binds env.watched 0 0 1 twoRequests ∧
    AllBind env.watched [.start 0 2 3] w₁ ∧
    w₁.activeId.map Value.display = some "00000000-0000-0000-0000-000000000001" ∧
    w₃.lines.map (·.text) = ["\x7b\"event\": \"network_activity\", \"logger\": \"netlog.network\", " ++
      "\"level\": \"info\", \"timestamp\": \"2024-01-01T00:00:00Z\", " ++
      "\"correlation_id\": \"00000000-0000-0000-0000-000000000002\"\x7d"] := by
  intro env w₁ w₂ w₃
  have hstart : (start env.watched 0 0 1).perform twoRequests = (.ok 0, w₁) := perform_of_toOption (by decide +kernel)
  have hopened : (opened env.watched 0 0 1).perform twoRequests = (.ok 0, _) := perform_of_toOption (by decide +kernel)
  have harrive : (arrive env.watched 0).perform ((opened env.watched 0 0 1).perform twoRequests).2 = (.ok (), _) :=
    perform_of_toOption (by decide +kernel)
  have hopened' : (opened env.watched 0 2 3).perform w₁ = (.ok 1, _) := perform_of_toOption (by decide +kernel)
  have harrive' : (arrive env.watched 1).perform ((opened env.watched 0 2 3).perform w₁).2 = (.ok (), _) :=
    perform_of_toOption (by decide +kernel)
  refine ⟨Application.unaware, calls_twoRequests, congrArg Prod.fst hstart,
    ⟨0, _, hopened, congrArg Prod.fst harrive⟩, ⟨⟨1, _, hopened', congrArg Prod.fst harrive'⟩, trivial⟩, ?_, ?_⟩
  · decide +kernel
  · decide +kernel

end Pipeline

end ActivityLog
