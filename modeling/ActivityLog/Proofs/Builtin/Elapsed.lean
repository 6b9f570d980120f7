import ActivityLog.Proofs.Builtin.Record
import ActivityLog.Proofs.Calendar.Stamp

/-!
# The time a response takes

The built-in function for it reads two stamps in the record and subtracts what they say.

- `run_responseTime_iff`: on any record it gives a number if both stamps are there and can be subtracted, and nothing if
  one of them is no stamp; where just one of the two has an offset it fails. `not_run_responseTime_total` is such a
  record.
- `responseTime_exact`: between the stamps of any two readings of the clock it finds the exact difference, also where
  the passes of arrival and completion have written them.
-/

namespace ActivityLog

open OrderedMap

namespace Moment

/-- Two moments have a difference if both have an offset or neither has. -/
def Comparable (a b : Moment) : Prop := a.offset.isSome = b.offset.isSome

instance (a b : Moment) : Decidable (Comparable a b) := inferInstanceAs (Decidable (_ = _))

theorem exists_sub?_iff {later earlier : Moment} :
    (∃ micros, later.sub? earlier = some micros) ↔ later.Comparable earlier := by
  obtain ⟨clock, offset⟩ := later
  obtain ⟨clock', offset'⟩ := earlier
  cases offset <;> cases offset' <;> simp [sub?, Comparable]

end Moment

namespace Builtin

variable {record : Record} {received sent : Moment}

/-- The stamps of arrival and completion in a record are texts that say when. -/
structure Stamped (record : Record) (received sent : Moment) : Prop where
  received : ∃ s, record.get? "request_received_at" = some (.text s) ∧ Stamp.read? s = some received
  sent : ∃ s, record.get? "response_sent_at" = some (.text s) ∧ Stamp.read? s = some sent

/-- The failure to subtract a moment with an offset and one without. -/
def mixedOffsets : Failure := .fault .type "can't subtract offset-naive and offset-aware datetimes"

/-! ## On any record -/

theorem elapsed_of_stamped (h : Stamped record received sent) :
    elapsed record = match sent.sub? received with
      | some micros => .ok (.float (millisOfMicros micros))
      | none => .error mixedOffsets := by
  obtain ⟨⟨s, hs, hreceived⟩, ⟨t, ht, hsent⟩⟩ := h
  simp only [elapsed, value, hs, ht, Option.getD_some, hreceived, hsent]
  rfl

/-- Stamps that have a difference give it. -/
theorem run_responseTime_of_sub (h : Stamped record received sent) {micros : Int}
    (hsub : sent.sub? received = some micros) (parties : Parties) (w : World) :
    responseTime.run parties record w = (.ok (.float (millisOfMicros micros)), record, w) := by
  show (elapsed record, record, w) = _
  rw [elapsed_of_stamped h, hsub]

/-- Stamps that have none make the function fail. -/
theorem run_responseTime_of_mixed (h : Stamped record received sent) (hsub : sent.sub? received = none)
    (parties : Parties) (w : World) : responseTime.run parties record w = (.error mixedOffsets, record, w) := by
  show (elapsed record, record, w) = _
  rw [elapsed_of_stamped h, hsub]

theorem get?_of_value {name : String} {v : Value} (h : record.value name = v) (hv : v ≠ .null) :
    record.get? name = some v := by
  unfold value at h
  cases hn : record.get? name with
  | none => rw [hn] at h; exact absurd h.symm hv
  | some u => rw [hn] at h; exact congrArg some h

/-- A record without both stamps gives nothing. -/
theorem elapsed_of_not_stamped (h : ∀ received sent, ¬Stamped record received sent) :
    elapsed record = .ok .null := by
  unfold elapsed
  split
  · next s t hs ht =>
    split
    · next later earlier hsent hreceived =>
      exact absurd ⟨⟨s, get?_of_value hs nofun, hreceived⟩, ⟨t, get?_of_value ht nofun, hsent⟩⟩ (h earlier later)
    · rfl
  · rfl

/-- A record has one pair of stamps at most. -/
theorem Stamped.unique {received' sent' : Moment} (h : Stamped record received sent)
    (h' : Stamped record received' sent') : received' = received ∧ sent' = sent := by
  obtain ⟨⟨s, hs, hreceived⟩, ⟨t, ht, hsent⟩⟩ := h
  obtain ⟨⟨s', hs', hreceived'⟩, ⟨t', ht', hsent'⟩⟩ := h'
  rw [hs] at hs'
  rw [ht] at ht'
  cases hs'
  cases ht'
  exact ⟨Option.some.inj (hreceived'.symm.trans hreceived), Option.some.inj (hsent'.symm.trans hsent)⟩

/-- **The time a response takes**, on any record. The function leaves the record and everything else alone, and

- gives a number just if both stamps are there and have a difference;
- gives nothing just if a stamp is missing, is no text or is none that can be read;
- fails just if both stamps are there and only one of them has an offset, and always in the same way. -/
theorem run_responseTime_iff (parties : Parties) (record : Record) (w : World) :
    let out := responseTime.run parties record w
    out.2 = (record, w) ∧
    ((∃ x, out.1 = .ok (.float x)) ↔ ∃ received sent, Stamped record received sent ∧ sent.Comparable received) ∧
    (out.1 = .ok .null ↔ ∀ received sent, ¬Stamped record received sent) ∧
    (∀ f, out.1 = .error f ↔
      f = mixedOffsets ∧ ∃ received sent, Stamped record received sent ∧ ¬sent.Comparable received) := by
  intro out
  refine ⟨rfl, ?_⟩
  show ((∃ x, elapsed record = .ok (.float x)) ↔ _) ∧ (elapsed record = .ok .null ↔ _) ∧
    ∀ f, elapsed record = .error f ↔ _
  by_cases hstamped : ∃ received sent, Stamped record received sent
  · obtain ⟨received, sent, h⟩ := hstamped
    have hboth (P : Moment → Moment → Prop) :
        (∃ received sent, Stamped record received sent ∧ P received sent) ↔ P received sent := by
      refine ⟨fun ⟨_, _, h', hp⟩ => ?_, fun hp => ⟨received, sent, h, hp⟩⟩
      obtain ⟨rfl, rfl⟩ := h.unique h'
      exact hp
    have hnot : ¬∀ received sent, ¬Stamped record received sent := fun hn => hn received sent h
    rw [hboth fun received sent => sent.Comparable received, hboth fun received sent => ¬sent.Comparable received,
      ← Moment.exists_sub?_iff, elapsed_of_stamped h]
    cases sent.sub? received with
    | some micros => simp [hnot]
    | none => simp [hnot, eq_comm]
  · have hnone : ∀ received sent, ¬Stamped record received sent := fun received sent h => hstamped ⟨received, sent, h⟩
    rw [elapsed_of_not_stamped hnone]
    simp [hnone]

/-- Stamps of the same time, one of which has no offset. -/
def mixedRecord : Record :=
  ⟨[("request_received_at", .text "2024-01-01T00:00:00"), ("response_sent_at", .text "2024-01-01T00:00:00+00:00")]⟩

/-- Not every record gives a number or nothing: both stamps can be read, but one has an offset and the other has none. -/
theorem not_run_responseTime_total :
    (responseTime.run ⟨0, 1, none⟩ mixedRecord {}).1 = .error mixedOffsets ∧
      ¬∀ (parties : Parties) (record : Record) (w : World), ∃ v, (responseTime.run parties record w).1 = .ok v := by
  have hread {s : String} (hascii : (s.toList.all fun c => c.toNat < 128) = true) :
      Stamp.read? s = Stamp.readBytes? (s.toList.map Char.toNat) :=
    Stamp.read?_of_ascii fun c hc => of_decide_eq_true (List.all_eq_true.1 hascii c hc)
  have hreceived : Stamp.read? "2024-01-01T00:00:00" = some ⟨63839750400000000, none⟩ := by
    rw [hread (by decide +kernel)]
    decide +kernel
  have hsent : Stamp.read? "2024-01-01T00:00:00+00:00" = some ⟨63839750400000000, some 0⟩ := by
    rw [hread (by decide +kernel)]
    decide +kernel
  have hstamped : Stamped mixedRecord ⟨63839750400000000, none⟩ ⟨63839750400000000, some 0⟩ :=
    ⟨⟨_, rfl, hreceived⟩, ⟨_, rfl, hsent⟩⟩
  have hfails : (responseTime.run ⟨0, 1, none⟩ mixedRecord {}).1 = .error mixedOffsets :=
    congrArg Prod.fst (run_responseTime_of_mixed hstamped rfl _ _)
  refine ⟨hfails, fun hall => ?_⟩
  obtain ⟨v, hv⟩ := hall ⟨0, 1, none⟩ mixedRecord {}
  rw [hfails] at hv
  cases hv

/-! ## Between two readings of the clock -/

/-- The moment that the stamp of a reading says. -/
def stampedMoment (reading : Int) : Moment := ⟨reading + (Calendar.epoch * Calendar.dayMicros : Nat), some 0⟩

/-- The difference of two stamps is that of the readings. -/
theorem sub?_stampedMoment (later earlier : Int) :
    (stampedMoment later).sub? (stampedMoment earlier) = some (later - earlier) := by
  have hsub : (stampedMoment later).sub? (stampedMoment earlier) =
      some ((stampedMoment later).clock - 0 - ((stampedMoment earlier).clock - 0)) := rfl
  rw [hsub]
  simp only [stampedMoment]
  congr 1
  omega

section Clock

variable {w w' : World} (hreceived : Stamp.isInCalendar w.tick.1 = true)
  (hsent : Stamp.isInCalendar w'.tick.1 = true)

include hreceived in
theorem run_receivedAt (parties : Parties) (record : Record) :
    (receivedAt.run parties record w).1 = .ok (.text (Stamp.write w.tick.1)) := if_pos hreceived

include hsent in
theorem run_sentAt (parties : Parties) (record : Record) :
    (sentAt.run parties record w').1 = .ok (.text (Stamp.write w'.tick.1)) := if_pos hsent

include hreceived hsent

/-- A record with the stamps of two readings. -/
theorem stamped_of_write (harrival : record.get? "request_received_at" = some (.text (Stamp.write w.tick.1)))
    (hcompletion : record.get? "response_sent_at" = some (.text (Stamp.write w'.tick.1))) :
    Stamped record (stampedMoment w.tick.1) (stampedMoment w'.tick.1) :=
  ⟨⟨_, harrival, Stamp.read?_write hreceived⟩, ⟨_, hcompletion, Stamp.read?_write hsent⟩⟩

end Clock

/-! ## In the passes -/

section Pass

variable {request response : Adapter} {log : Option Nat}

theorem call_responseTime (h : Stamped record received sent) {micros : Int} (hsub : sent.sub? received = some micros)
    (v : World) : ((Application.surroundings.surface request response log).call responseTime.toFunction record v).1 =
      .ok (.float (millisOfMicros micros)) := by
  have hrun (u : World) : (responseTime.run ⟨request.target, response.target, log⟩ record u).1 =
      .ok (.float (millisOfMicros micros)) := congrArg Prod.fst (run_responseTime_of_sub h hsub _ u)
  cases log with
  | none => exact hrun v
  | some id => exact hrun (v.withRecord id record)

/-- The field of the time a response takes. -/
def elapsedField : Descriptor :=
  { name := "response_time_ms", source := .time none (some responseTime.toFunction), mandatory := true,
    default := .int (-1) }

variable {w w' : World}

/-- On completion the time is that from the stamp of arrival, which is in the record, to the stamp of completion, which
its field has just written there. -/
theorem resolvePass_responseTime (hrecord : record.Clean) (hreceived : Stamp.isInCalendar w.tick.1 = true)
    (hsent : Stamp.isInCalendar w'.tick.1 = true)
    (harrival : record.get? "request_received_at" = some (.text (Stamp.write w.tick.1))) :
    (resolvePass (Application.surroundings.surface request response log) .post postFields record w').record.get?
      "response_time_ms" = some (.float (millisOfMicros (w'.tick.1 - w.tick.1))) := by
  let env := Application.surroundings.surface request response log
  let sw : Sweep World := Sweep.step env .post { record, state := w' } sentField
  have hfields : postFields = [sentField] ++ elapsedField :: postFields.drop 2 := rfl
  have hnames := nodup_names_postFields
  have hspares : env.Spares (functionsOf postFields) := spares_builtins functionsOf_postFields
  have hfirst : env.Spares sentField.functions := hspares.mono (fun f hf => mem_functionsOf List.mem_cons_self hf)
  have hcompletion : sw.record.get? "response_sent_at" = some (.text (Stamp.write w'.tick.1)) := by
    refine (Sweep.step_get? hfirst hrecord nofun).trans ?_
    rw [turn_sent record hsent]
    rfl
  have hkept : sw.record.get? "request_received_at" = some (.text (Stamp.write w.tick.1)) :=
    (Sweep.step_get?_of_ne hfirst (by decide)).trans harrival
  have hstamped := stamped_of_write hreceived hsent hkept hcompletion
  have htime : (env.call responseTime.toFunction sw.record sw.state).1 =
      .ok (.float (millisOfMicros (w'.tick.1 - w.tick.1))) :=
    call_responseTime hstamped (sub?_stampedMoment _ _) sw.state
  have hnext : Sweep.turn env .post sw elapsedField =
      .ok (.value (.float (millisOfMicros (w'.tick.1 - w.tick.1)))) := congrArg (·.map Primary.value) htime
  rw [hfields] at hnames hspares ⊢
  exact resolvePass_get?_of_found hnames hrecord hspares id (.inl nofun) hnext nofun

end Pass

/-- **The time between any two readings of the clock**, whichever is the later one. What the two stamps write is read
back as the moments of the readings, whose difference is that of the readings to the microsecond, so

- on every record with both stamps the function gives the milliseconds of that difference;
- on completion the field for it holds them, whatever the hosts are and do and whatever happens since arrival. -/
theorem responseTime_exact {w w' : World} (hreceived : Stamp.isInCalendar w.tick.1 = true)
    (hsent : Stamp.isInCalendar w'.tick.1 = true) :
    let micros := w'.tick.1 - w.tick.1
    let time := Value.float (millisOfMicros micros)
    (∃ received sent,
      (∀ parties record, (receivedAt.run parties record w).1 = .ok (.text received)) ∧
      (∀ parties record, (sentAt.run parties record w').1 = .ok (.text sent)) ∧
      Stamp.read? received = some (stampedMoment w.tick.1) ∧ Stamp.read? sent = some (stampedMoment w'.tick.1) ∧
      (stampedMoment w'.tick.1).sub? (stampedMoment w.tick.1) = some micros ∧
      ∀ record : Record, record.get? "request_received_at" = some (.text received) →
        record.get? "response_sent_at" = some (.text sent) →
        ∀ parties u, responseTime.run parties record u = (.ok time, record, u)) ∧
    ∀ (componentName layer : Value) (l : Lifecycle) (id : Nat), l.record = .empty →
      ∃ arrived between completed after,
        (l.runPass Application.surroundings id .pre (fieldConfig componentName layer)).perform w =
          (.ok arrived, between) ∧
        (arrived.runPass Application.surroundings id .post (fieldConfig componentName layer)).perform w' =
          (.ok completed, after) ∧
        completed.record.get? "response_time_ms" = some time := by
  intro micros time
  refine ⟨⟨Stamp.write w.tick.1, Stamp.write w'.tick.1, run_receivedAt hreceived, run_sentAt hsent,
    Stamp.read?_write hreceived, Stamp.read?_write hsent, sub?_stampedMoment _ _,
    fun record harrival hcompletion parties u => ?_⟩, fun componentName layer l id hempty => ?_⟩
  · exact run_responseTime_of_sub (stamped_of_write hreceived hsent harrival hcompletion) (sub?_stampedMoment _ _)
      parties u
  · refine ⟨_, _, _, _, Lifecycle.perform_runPass .pre _ l w, Lifecycle.perform_runPass .post _ _ w', ?_⟩
    unfold Lifecycle.passed
    dsimp only [FieldConfig.phase, fieldConfig]
    rw [hempty]
    have hspares : (Application.surroundings.surface l.request l.response (some id)).Spares
        (functionsOf (preFields componentName layer)) := spares_builtins functionsOf_preFields
    exact resolvePass_responseTime (resolvePass_clean .pre filled_empty.clean hspares w) hreceived hsent
      (resolvePass_received hreceived)

/-- A clock that goes back by a microsecond over the turn of a year: the first stamp has no fraction, the second one
has. -/
theorem responseTime_exact_backwards :
    Stamp.isInCalendar 0 = true ∧ Stamp.isInCalendar (-1) = true ∧ ∀ parties u,
      (responseTime.run parties ⟨[("request_received_at", .text "1970-01-01T00:00:00+00:00"),
        ("response_sent_at", .text "1969-12-31T23:59:59.999999+00:00")]⟩ u).1 =
        .ok (.float (millisOfMicros (-1))) := by
  let first : World := { clock := { pending := [0] } }
  let second : World := { clock := { pending := [-1] } }
  have hreceived : Stamp.isInCalendar first.tick.1 = true := by decide +kernel
  have hsent : Stamp.isInCalendar second.tick.1 = true := by decide +kernel
  obtain ⟨⟨received, sent, harrival, hcompletion, -, -, -, htime⟩, -⟩ := responseTime_exact hreceived hsent
  have hfirst : received = "1970-01-01T00:00:00+00:00" := by
    have hwritten : Stamp.write 0 = "1970-01-01T00:00:00+00:00" := by decide +kernel
    have hrun := (harrival ⟨0, 1, none⟩ .empty).symm.trans (run_receivedAt hreceived ⟨0, 1, none⟩ .empty)
    injection hrun with hrun
    injection hrun with hrun
    exact hrun.trans hwritten
  have hsecond : sent = "1969-12-31T23:59:59.999999+00:00" := by
    have hwritten : Stamp.write (-1) = "1969-12-31T23:59:59.999999+00:00" := by decide +kernel
    have hrun := (hcompletion ⟨0, 1, none⟩ .empty).symm.trans (run_sentAt hsent ⟨0, 1, none⟩ .empty)
    injection hrun with hrun
    injection hrun with hrun
    exact hrun.trans hwritten
  subst hfirst hsecond
  exact ⟨hreceived, hsent, fun parties u => congrArg Prod.fst (htime _ rfl rfl parties u)⟩

end Builtin

end ActivityLog
