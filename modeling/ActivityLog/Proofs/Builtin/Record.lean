import ActivityLog.Proofs.Builtin
import ActivityLog.Proofs.Lifecycle.Arrival

/-!
# The record of the built-in fields

The passes of arrival and completion over the built-in fields make a complete record (`Builtin.Complete`), whatever the
hosts are: `Builtin.runPass_complete`. What is mandatory has a default that no fallback can take away, or gets an id
that is drawn; stamps are those of the clock, which nothing reads before their turn (`keeps_clock`); references take
what their targets hold in the end.
-/

namespace ActivityLog

open OrderedMap

/-! ## The clock -/

theorem World.tick_congr {w w' : World} (h : w'.clock = w.clock) : w'.tick.1 = w.tick.1 := by
  unfold World.tick
  rw [h]
  split <;> rfl

/-- Only the two stamps read the clock. -/
theorem Builtin.clock_run {f : Builtin} (hreceived : f ≠ .receivedAt) (hsent : f ≠ .sentAt) (parties : Parties)
    (record : Record) (w : World) : (f.run parties record w).2.2.clock = w.clock := by
  cases f <;> first
    | rfl
    | contradiction

section Clock

variable {request response : Adapter} {log : Option Nat}

/-- Reading hosts and drawing ids leaves the clock alone. -/
theorem keeps_clock {fs : List FieldFunction} (hfs : ∀ f ∈ fs, ∃ g : Builtin, f = g.toFunction ∧ g ≠ .receivedAt ∧
    g ≠ .sentAt) (w : World) :
    (Application.surroundings.surface request response log).Keeps (fun v => v.clock = w.clock) fs where
  header _ _ _ hs := hs
  field _ _ _ hs := hs
  heard _ hs := hs
  call f hf record s hs := by
    obtain ⟨g, rfl, hreceived, hsent⟩ := hfs f hf
    cases log with
    | none => exact (g.clock_run hreceived hsent _ record s).trans hs
    | some id => exact (g.clock_run hreceived hsent _ record (s.withRecord id record)).trans hs

/-- A stamp is that of the clock's next reading. -/
theorem call_stamp {f : Builtin} (hf : f = .receivedAt ∨ f = .sentAt) {w v : World} (hclock : v.clock = w.clock)
    (hreading : Stamp.isInCalendar w.tick.1 = true) (record : Record) :
    ((Application.surroundings.surface request response log).call f.toFunction record v).1 =
      .ok (.text (Stamp.write w.tick.1)) := by
  have hstamped : Builtin.stamped w.tick.1 = .ok (.text (Stamp.write w.tick.1)) := if_pos hreading
  have hrun (parties : Parties) (u : World) (hu : u.clock = v.clock) :
      (f.run parties record u).1 = Builtin.stamped w.tick.1 := by
    rw [← World.tick_congr (hu.trans hclock)]
    rcases hf with rfl | rfl <;> rfl
  rw [← hstamped]
  cases log with
  | none => exact hrun _ v rfl
  | some id => exact hrun _ (v.withRecord id record) rfl

end Clock

/-! ## Filled records -/

/-- A record that passes over fields have filled: their mandatory ones are there, there are none but theirs, and none
holds an absent value. -/
structure Filled (ds : List Descriptor) (record : Record) : Prop where
  clean : record.Clean
  named : ∀ name, (record.get? name).isSome → ∃ d ∈ ds, d.name = name
  mandatory : ∀ d ∈ ds, d.mandatory = true → (record.get? d.name).isSome

theorem filled_empty : Filled [] .empty where
  clean _ := nofun
  named _ h := nomatch h
  mandatory _ hd := nomatch hd

section Pass

variable {σ : Type} {env : Surface σ} {phase : Phase} {record : Record} {s : σ}

/-- A pass over fields of other names fills a record further, if it leaves none of its mandatory fields out. -/
theorem Filled.resolvePass {earlier ds : List Descriptor} (h : Filled earlier record)
    (hspares : env.Spares (functionsOf ds)) (hapart : ∀ d ∈ earlier, ∀ e ∈ ds, e.name ≠ d.name)
    (hmandatory : ∀ d ∈ ds, d.mandatory = true →
      ((resolvePass env phase ds record s).record.get? d.name).isSome) :
    Filled (earlier ++ ds) (resolvePass env phase ds record s).record where
  clean := resolvePass_clean phase h.clean hspares s
  named name hname := by
    by_cases hours : ∃ d ∈ ds, d.name = name
    · obtain ⟨d, hd, heq⟩ := hours
      exact ⟨d, List.mem_append_right _ hd, heq⟩
    · rw [resolvePass_get?_of_unnamed phase hspares record s fun d hd heq => hours ⟨d, hd, heq⟩] at hname
      obtain ⟨d, hd, heq⟩ := h.named name hname
      exact ⟨d, List.mem_append_left _ hd, heq⟩
  mandatory d hd hm := by
    rcases List.mem_append.1 hd with hd | hd
    · rw [resolvePass_get?_of_unnamed phase hspares record s (hapart d hd)]
      exact h.mandatory d hd hm
    · exact hmandatory d hd hm

variable {before after : List Descriptor} {d : Descriptor} (hnames : ((before ++ d :: after).map (·.name)).Nodup)
  (hrecord : record.Clean) (hspares : env.Spares (functionsOf (before ++ d :: after)))

include hnames hrecord hspares

/-- What a field's source gives at its turn it holds in the end. -/
theorem resolvePass_get?_of_found {v : Value} (hself : ¬d.source.IsSelf)
    (hspecial : d.source ≠ .special ∨ d.fallback = none)
    (hturn : Sweep.turn env phase (Sweep.run env phase before record s) d = .ok (.value v)) (hv : v ≠ .null) :
    (resolvePass env phase (before ++ d :: after) record s).record.get? d.name = some v := by
  have hgiven : Primary.onto (Sweep.turn env phase (Sweep.run env phase before record s) d) (record.get? d.name) =
      some v := by
    rw [hturn]
    exact Value.toOption_of_ne hv
  have hwaits : ¬d.Waits (Primary.onto (Sweep.turn env phase (Sweep.run env phase before record s) d)
      (record.get? d.name)) := fun h => nomatch hgiven.symm.trans h.2.1
  rw [resolvePass_get?_of_split phase hnames hrecord hspares s hself hspecial hwaits, hgiven, Option.some_or]

/-- On arrival a fixed field holds its value. -/
theorem resolvePass_get?_of_fixed {v : Value} (hsource : d.source = .fixed v) (hv : v ≠ .null) :
    (resolvePass env .pre (before ++ d :: after) record s).record.get? d.name = some v := by
  refine resolvePass_get?_of_found hnames hrecord hspares ?_ (.inl ?_) ?_ hv
  · rw [hsource]
    exact id
  · rw [hsource]
    exact nofun
  · rw [Sweep.turn, hsource]
    rfl

end Pass

namespace Builtin

variable {componentName layer : Value} {request response : Adapter} {log : Option Nat} {record : Record} {w : World}

/-! ## The fields of arrival -/

/-- What is mandatory on arrival has a default, apart from the correlation id. -/
theorem mandatory_preFields {d : Descriptor} (hd : d ∈ preFields componentName layer) (hm : d.mandatory = true) :
    d = correlationField ∨ ¬d.source.IsSelf ∧ d.source ≠ .special ∧ d.default ≠ .null := by
  simp only [preFields, List.mem_cons, List.not_mem_nil, or_false] at hd
  rcases hd with rfl | rfl | rfl | rfl | rfl | rfl | rfl | rfl | rfl | rfl | rfl | rfl | rfl | rfl | rfl | rfl | rfl <;>
    first
      | exact absurd hm Bool.false_ne_true
      | exact .inl rfl
      | exact .inr ⟨id, nofun, nofun⟩

/-- All values of fixed fields are there if the two that are given are. -/
theorem fixed_preFields (hname : componentName ≠ .null) (hlayer : layer ≠ .null) {d : Descriptor}
    (hd : d ∈ preFields componentName layer) {v : Value} (hv : d.source = .fixed v) : v ≠ .null := by
  simp only [preFields, List.mem_cons, List.not_mem_nil, or_false] at hd
  rcases hd with rfl | rfl | rfl | rfl | rfl | rfl | rfl | rfl | rfl | rfl | rfl | rfl | rfl | rfl | rfl | rfl | rfl <;>
    cases hv <;> first
      | exact hname
      | exact hlayer
      | exact nofun

theorem refersTo_remoteHost : RefersTo (preFields componentName layer) "remote_host" "remote_ip" := by
  refine ⟨(preFields componentName layer).take 12, _, (preFields componentName layer).drop 13, rfl, rfl, rfl, ?_⟩
  rw [isAlias_iff]
  exact List.not_mem_nil

theorem not_isAlias_remoteIp : ¬IsAlias (preFields componentName layer) "remote_ip" := by
  rw [isAlias_iff]
  show "remote_ip" ∉ ["remote_host"]
  decide

/-- On arrival there is a correlation id, whatever becomes of its header. -/
theorem isSome_correlationId : ((resolvePass (Application.surroundings.surface request response log) .pre
    (preFields componentName layer) .empty w).record.get? "correlation_id").isSome := by
  obtain ⟨before, after, hfields⟩ := exists_split_preFields componentName layer
  obtain ⟨hheader, hdrawn⟩ :=
    @resolvePass_correlationId_of_turn componentName layer request response log .empty w nofun before after hfields
  cases hgiven : Primary.onto (Sweep.turn (Application.surroundings.surface request response log) .pre
      (Sweep.run (Application.surroundings.surface request response log) .pre before .empty w) correlationField)
      (OrderedMap.empty.get? "correlation_id") with
  | some v => exact Option.isSome_of_eq_some (hheader v hgiven)
  | none =>
    obtain ⟨n, -, hn⟩ := hdrawn hgiven
    exact Option.isSome_of_eq_some hn

/-- On arrival all mandatory fields come to the record. -/
theorem isSome_of_mandatory_preFields {d : Descriptor} (hd : d ∈ preFields componentName layer)
    (hm : d.mandatory = true) : ((resolvePass (Application.surroundings.surface request response log) .pre
      (preFields componentName layer) .empty w).record.get? d.name).isSome := by
  rcases mandatory_preFields hd hm with rfl | ⟨hself, hspecial, hdefault⟩
  · exact isSome_correlationId
  · obtain ⟨before, after, hfields⟩ := List.append_of_mem hd
    have hnames : ((preFields componentName layer).map (·.name)).Nodup := nodup_names_preFields
    have hspares : (Application.surroundings.surface request response log).Spares
        (functionsOf (preFields componentName layer)) := spares_builtins functionsOf_preFields
    rw [hfields] at hnames hspares ⊢
    exact resolvePass_isSome_of_default .pre hnames filled_empty.clean hspares w hself (.inl hspecial) hm hdefault

/-- The field of the stamp of arrival. -/
def receivedField : Descriptor := { name := "request_received_at", source := .time (some receivedAt.toFunction) none }

/-- Before the stamp of arrival no function reads the clock. -/
theorem exists_split_received (componentName layer : Value) :
    ∃ before after, preFields componentName layer = before ++ receivedField :: after ∧
      ∀ f ∈ functionsOf before, ∃ g : Builtin, f = g.toFunction ∧ g ≠ .receivedAt ∧ g ≠ .sentAt := by
  refine ⟨(preFields componentName layer).take 7, (preFields componentName layer).drop 8, rfl, fun f hf => ?_⟩
  have hfunctions : functionsOf ((preFields componentName layer).take 7) = [newCorrelationId.toFunction] := rfl
  rw [hfunctions, List.mem_singleton] at hf
  exact ⟨newCorrelationId, hf, nofun, nofun⟩

/-- The stamp of arrival is the clock's reading when the pass begins. -/
theorem resolvePass_received (hreading : Stamp.isInCalendar w.tick.1 = true) :
    (resolvePass (Application.surroundings.surface request response log) .pre (preFields componentName layer) .empty
      w).record.get? "request_received_at" = some (.text (Stamp.write w.tick.1)) := by
  obtain ⟨before, after, hfields, hquiet⟩ := exists_split_received componentName layer
  have hnames : ((preFields componentName layer).map (·.name)).Nodup := nodup_names_preFields
  have hspares : (Application.surroundings.surface request response log).Spares
      (functionsOf (preFields componentName layer)) := spares_builtins functionsOf_preFields
  let sw := Sweep.run (Application.surroundings.surface request response log) .pre before .empty w
  have hclock : sw.state.clock = w.clock := (keeps_clock hquiet w).sweep (fun _ hf => hf) .pre .empty rfl
  have hgiven : ((Application.surroundings.surface request response log).call receivedAt.toFunction sw.record
      sw.state).1 = .ok (.text (Stamp.write w.tick.1)) := call_stamp (.inl rfl) hclock hreading sw.record
  have hturn : Sweep.turn (Application.surroundings.surface request response log) .pre sw receivedField =
      .ok (.value (.text (Stamp.write w.tick.1))) :=
    congrArg (·.map Primary.value) hgiven
  rw [hfields] at hnames hspares ⊢
  exact resolvePass_get?_of_found hnames filled_empty.clean hspares id (.inl nofun) hturn nofun

/-! ## The fields of completion -/

theorem functionsOf_postFields : ∀ f ∈ functionsOf postFields, ∃ g, f = Builtin.toFunction g := by
  have hfunctions : functionsOf postFields = [sentAt, responseTime].map toFunction := rfl
  rw [hfunctions]
  intro f hf
  obtain ⟨g, -, rfl⟩ := List.mem_map.1 hf
  exact ⟨g, rfl⟩

theorem nodup_names_postFields : (postFields.map (·.name)).Nodup := by decide

/-- Fields of arrival and of completion have different names. -/
theorem ne_of_mem_names {name : String} (hname : name ∈ (preFields componentName layer).map (·.name)) {d : Descriptor}
    (hd : d ∈ postFields) : d.name ≠ name := by
  have hapart : ∀ a ∈ (preFields componentName layer).map (·.name), ∀ b ∈ postFields.map (·.name), b ≠ a := by
    rw [names_preFields]
    decide
  exact hapart name hname d.name (List.mem_map_of_mem hd)

/-- The field of the stamp of completion. -/
def sentField : Descriptor := { name := "response_sent_at", source := .time none (some sentAt.toFunction) }

/-- What is mandatory on completion has a default. -/
theorem mandatory_postFields {d : Descriptor} (hd : d ∈ postFields) (hm : d.mandatory = true) :
    ¬d.source.IsSelf ∧ d.source ≠ .special ∧ d.default ≠ .null := by
  simp only [postFields, List.mem_cons, List.not_mem_nil, or_false] at hd
  rcases hd with rfl | rfl | rfl | rfl | rfl | rfl <;> first
    | exact absurd hm Bool.false_ne_true
    | exact ⟨id, nofun, nofun⟩

/-- No field of completion is fixed. -/
theorem not_fixed_postFields {d : Descriptor} (hd : d ∈ postFields) (v : Value) : d.source ≠ .fixed v := by
  simp only [postFields, List.mem_cons, List.not_mem_nil, or_false] at hd
  rcases hd with rfl | rfl | rfl | rfl | rfl | rfl <;> exact nofun

theorem refersTo_writtenAt : RefersTo postFields "written_at" "response_sent_at" := by
  refine ⟨postFields.take 5, _, [], rfl, rfl, rfl, ?_⟩
  rw [isAlias_iff]
  exact List.not_mem_nil

theorem not_isAlias_sentAt : ¬IsAlias postFields "response_sent_at" := by
  rw [isAlias_iff]
  show "response_sent_at" ∉ ["written_at"]
  decide

/-- On completion all mandatory fields come to the record. -/
theorem isSome_of_mandatory_postFields (hrecord : record.Clean) {d : Descriptor} (hd : d ∈ postFields)
    (hm : d.mandatory = true) : ((resolvePass (Application.surroundings.surface request response log) .post
      postFields record w).record.get? d.name).isSome := by
  obtain ⟨hself, hspecial, hdefault⟩ := mandatory_postFields hd hm
  obtain ⟨before, after, hfields⟩ := List.append_of_mem hd
  have hnames := nodup_names_postFields
  have hspares : (Application.surroundings.surface request response log).Spares (functionsOf postFields) :=
    spares_builtins functionsOf_postFields
  rw [hfields] at hnames hspares ⊢
  exact resolvePass_isSome_of_default .post hnames hrecord hspares w hself (.inl hspecial) hm hdefault

/-- The pass of completion begins with its stamp. -/
theorem turn_sent (record : Record) (hreading : Stamp.isInCalendar w.tick.1 = true) :
    Sweep.turn (Application.surroundings.surface request response log) .post { record, state := w } sentField =
      .ok (.value (.text (Stamp.write w.tick.1))) := by
  have hgiven : ((Application.surroundings.surface request response log).call sentAt.toFunction record w).1 =
      .ok (.text (Stamp.write w.tick.1)) := call_stamp (.inr rfl) rfl hreading record
  exact congrArg (·.map Primary.value) hgiven

/-- The stamp of completion is the clock's reading when the pass begins. -/
theorem resolvePass_sent (hrecord : record.Clean) (hreading : Stamp.isInCalendar w.tick.1 = true) :
    (resolvePass (Application.surroundings.surface request response log) .post postFields record w).record.get?
      "response_sent_at" = some (.text (Stamp.write w.tick.1)) := by
  have hfields : postFields = [] ++ sentField :: postFields.tail := rfl
  have hnames := nodup_names_postFields
  have hspares : (Application.surroundings.surface request response log).Spares (functionsOf postFields) :=
    spares_builtins functionsOf_postFields
  rw [hfields] at hnames hspares ⊢
  exact resolvePass_get?_of_found hnames hrecord hspares id (.inl nofun) (turn_sent record hreading) nofun

/-! ## The whole record -/

/-- A complete record of the built-in fields: filled by them, with the values of the fixed ones, the stamps of the two
readings of the clock, and references that hold what their targets hold. -/
structure Complete (componentName layer : Value) (received sent : Int) (record : Record) : Prop extends
    Filled (preFields componentName layer ++ postFields) record where
  fixed : ∀ d ∈ preFields componentName layer ++ postFields, ∀ v, d.source = .fixed v → record.get? d.name = some v
  received : record.get? "request_received_at" = some (.text (Stamp.write received))
  sent : record.get? "response_sent_at" = some (.text (Stamp.write sent))
  written : record.get? "written_at" = record.get? "response_sent_at"
  remote : record.get? "remote_host" = record.get? "remote_ip"

/-- The mandatory fields. -/
example (componentName layer : Value) :
    ((preFields componentName layer ++ postFields).filter (·.mandatory)).map (·.name) =
      ["correlation_id", "method", "request_size_b", "referer", "x_forwarded_for", "response_time_ms",
        "response_status", "response_content_type", "response_size_b"] := rfl

/-- The two passes over an empty record, in states that need not have anything to do with each other. -/
theorem complete_resolvePass (request response : Adapter) (log : Option Nat) (hname : componentName ≠ .null)
    (hlayer : layer ≠ .null) {w w' : World}
    (hreceived : Stamp.isInCalendar w.tick.1 = true) (hsent : Stamp.isInCalendar w'.tick.1 = true) :
    let env := Application.surroundings.surface request response log
    let arrived := (resolvePass env .pre (preFields componentName layer) .empty w).record
    Complete componentName layer w.tick.1 w'.tick.1 (resolvePass env .post postFields arrived w').record := by
  intro env arrived
  have hpre : env.Spares (functionsOf (preFields componentName layer)) := spares_builtins functionsOf_preFields
  have hpost : env.Spares (functionsOf postFields) := spares_builtins functionsOf_postFields
  have harrived : Filled (preFields componentName layer) arrived :=
    filled_empty.resolvePass hpre (fun _ hd => nomatch hd) fun _ => isSome_of_mandatory_preFields
  -- Completion has no field of a name that arrival has.
  have hkept {name : String} (hin : name ∈ (preFields componentName layer).map (·.name)) :
      (resolvePass env .post postFields arrived w').record.get? name = arrived.get? name :=
    resolvePass_get?_of_unnamed .post hpost arrived w' fun _ => ne_of_mem_names hin
  refine { harrived.resolvePass hpost (fun _ hd _ => ne_of_mem_names (List.mem_map_of_mem hd))
    fun _ => isSome_of_mandatory_postFields harrived.clean with
    fixed := fun d hd v hv => ?fixed, received := ?received, sent := ?sent, written := ?written, remote := ?remote }
  case fixed =>
    rcases List.mem_append.1 hd with hd | hd
    · obtain ⟨before, after, hfields⟩ := List.append_of_mem hd
      have hnames : ((preFields componentName layer).map (·.name)).Nodup := nodup_names_preFields
      rw [hkept (List.mem_map_of_mem hd)]
      unfold arrived
      rw [hfields] at hnames hpre ⊢
      exact resolvePass_get?_of_fixed hnames filled_empty.clean hpre hv (fixed_preFields hname hlayer hd hv)
    · exact absurd hv (not_fixed_postFields hd v)
  case received =>
    have hin : "request_received_at" ∈ (preFields componentName layer).map (·.name) := by simp [names_preFields]
    exact (hkept hin).trans (resolvePass_received hreceived)
  case sent => exact resolvePass_sent harrived.clean hsent
  case written =>
    exact resolvePass_get?_of_refersTo .post harrived.clean hpost w' refersTo_writtenAt not_isAlias_sentAt
  case remote =>
    have hhost : "remote_host" ∈ (preFields componentName layer).map (·.name) := by simp [names_preFields]
    have hip : "remote_ip" ∈ (preFields componentName layer).map (·.name) := by simp [names_preFields]
    rw [hkept hhost, hkept hip]
    exact resolvePass_get?_of_refersTo .pre filled_empty.clean hpre w refersTo_remoteHost not_isAlias_remoteIp

/-- **The built-in fields make a complete record of any request**: the passes of arrival and completion over an empty
record do not fail, whatever the hosts are and do and whatever happens between the two, as long as the clock shows
moments of the calendar. -/
theorem runPass_complete {l : Lifecycle} {w : World} (hempty : l.record = .empty) (hname : componentName ≠ .null)
    (hlayer : layer ≠ .null) (hreceived : Stamp.isInCalendar w.tick.1 = true) (id : Nat) :
    ∃ arrived between, (l.runPass Application.surroundings id .pre (fieldConfig componentName layer)).perform w =
        (.ok arrived, between) ∧
      ∀ w' : World, Stamp.isInCalendar w'.tick.1 = true → ∃ completed after,
        (arrived.runPass Application.surroundings id .post (fieldConfig componentName layer)).perform w' =
          (.ok completed, after) ∧
        Complete componentName layer w.tick.1 w'.tick.1 completed.record := by
  refine ⟨_, _, Lifecycle.perform_runPass .pre _ l w, fun w' hsent => ?_⟩
  refine ⟨_, _, Lifecycle.perform_runPass .post _ _ w', ?_⟩
  unfold Lifecycle.passed
  dsimp only [FieldConfig.phase, fieldConfig]
  rw [hempty]
  exact complete_resolvePass l.request l.response (some id) hname hlayer hreceived hsent

/-- Hosts of which nothing can be had: the request's attributes and headers cannot be read, and the response has
none. -/
def unanswering : World :=
  let gone : Failure := .fault .runtime "gone"
  { hosts := ⟨[{ attributes := ⟨["client", "method", "path", "scope", "url"].map (·, .broken gone)⟩ },
      { nature := .bare }]⟩ }

/-- A complete record of hosts that do not answer. -/
theorem runPass_complete_unanswering :
    let env := Application.surroundings
    let config := fieldConfig
    let l : Lifecycle := ⟨0, ⟨0, .failing (.fault .runtime "gone"), none⟩, ⟨1, .absent, none⟩, .empty, .created⟩
    ∃ arrived between, (l.runPass env 0 .pre config).perform unanswering = (.ok arrived, between) ∧
      ∃ completed after, (arrived.runPass env 0 .post config).perform between = (.ok completed, after) ∧
        Complete (.text "netlog") (.text "[PY] NET") unanswering.tick.1 between.tick.1 completed.record := by
  intro env config l
  have hfirst : Stamp.isInCalendar unanswering.tick.1 = true := by decide +kernel
  obtain ⟨arrived, between, hpre, hpost⟩ :=
    @runPass_complete (.text "netlog") (.text "[PY] NET") l unanswering rfl nofun nofun hfirst 0
  have hsecond : Stamp.isInCalendar ((l.runPass env 0 .pre config).perform unanswering).2.tick.1 = true := by
    decide +kernel
  rw [hpre] at hsecond
  exact ⟨arrived, between, hpre, hpost between hsecond⟩

end Builtin

end ActivityLog
