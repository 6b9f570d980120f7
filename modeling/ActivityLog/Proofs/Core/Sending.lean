import ActivityLog.Proofs.Core.Aside
import ActivityLog.Proofs.Logging.Event

/-!
# Records that are sent

The structured core sends a record as the event `network_activity` with the record's fields. A field may be lost on the
way, or even the record with it, by its name alone: the event's methods have parameters of some names, and every line
carries some names anyway.

- `StructuredCore.perform_sendLog`: a record of a level that passes becomes one event (`StructuredCore.sentEvent`),
  which is handed over once. So there is one line of it at most (`StructuredCore.lines_sendLog`).
- `StructuredCore.sendLog_carries_iff`: the event carries the record just if all of its fields can be carried
  (`StructuredCore.Carried`). `StructuredCore.not_sendLog_carries` is a field with which the record gets lost.
-/

namespace ActivityLog

open Act OrderedMap

/-- What succeeds in steps succeeds in each. -/
theorem of_bind_eq_ok {α β : Type} {x : Except Failure α} {f : α → Except Failure β} {b : β}
    (h : (x >>= f) = .ok b) : ∃ a, x = .ok a ∧ f a = .ok b := by
  cases x with
  | error e => cases h
  | ok a => exact ⟨a, rfl, h⟩

/-- A call with enough arguments by place, and not too many, fits just if none of these is given by name, too. -/
theorem Signature.check_eq_ok_iff_of_le {s : Signature} (hs : s.moreNames = true) {given : Nat}
    (henough : s.required.length ≤ given) (hfew : given ≤ s.parameters.length) (function : String)
    (names : List String) :
    s.check function given names = .ok () ↔ ∀ name ∈ s.parameters.take given, name ∉ names := by
  have hfits : Nat.blt s.parameters.length given = false := by
    rw [← Bool.not_eq_true, Nat.blt_eq]
    exact Nat.not_lt.2 hfew
  have hmissing : s.missing given names = [] := by
    rw [missing, List.drop_eq_nil_of_le henough]
    rfl
  have hfind : names.findSome? (s.nameFault given) = none ↔ ∀ name ∈ s.parameters.take given, name ∉ names := by
    rw [List.findSome?_eq_none_iff]
    constructor
    · intro h name hname hmem
      have hfault := h name hmem
      rw [nameFault, if_pos (List.contains_iff_mem.2 hname)] at hfault
      cases hfault
    · intro h name hmem
      have hname : name ∉ s.parameters.take given := fun hname => h name hname hmem
      simp [nameFault, hname, hs]
  unfold check fault
  rw [← hfind]
  cases names.findSome? (s.nameFault given) with
  | some text => simp
  | none => simp [hfits, hmissing]

/-- A call with the required arguments by place fits just if none of them is given by name, too. -/
theorem Signature.check_eq_ok_iff {s : Signature} (hs : s.moreNames = true) (function : String) (names : List String) :
    s.check function s.required.length names = .ok () ↔ ∀ name ∈ s.required, name ∉ names := by
  have htake : s.parameters.take s.required.length = s.required := List.take_left
  have hfew : s.required.length ≤ s.parameters.length := by simp [parameters]
  rw [check_eq_ok_iff_of_le hs (Nat.le_refl _) hfew, htake]

/-- A name that is refused is one of the parameters. -/
theorem refuseParameters_eq_ok_iff (function : String) (parameters names : List String) :
    refuseParameters function parameters names = .ok () ↔ ∀ name ∈ parameters, name ∉ names :=
  Signature.check_eq_ok_iff rfl function names

namespace StructuredCore

variable {w : World} {record event : Record} {level : Level}

/-! ## The event of a record -/

/-- The event of a record before anything is added: the record's fields, and the event's name where it has none. -/
def named (record : Record) : Record :=
  Event.assemble {} (record.erase "event") ((record.get? "event").getD (.text eventName))

/-- The event that a record becomes, as it is handed over. -/
def sentEvent (level : Level) (record : Record) (w : World) : Except Failure Record := do
  let method := LogMethod.ofLevel level
  method.signature.check ("BoundLogger." ++ method.name) 1 record.keys
  refuseParameters w.loggerKind.writerName ["method_name"] (record.erase "event").keys
  let finished ← Event.complete loggerName level w.activeId w.span (named record)
  return finished.map w.reveal

/-- A record is logged as an event of the logger of records, once its level and what its lines go through are
settled. -/
theorem perform_sendLog_logFields {id : Nat} {c : StructuredCore} (hc : w.cores.get? id = some (.structured c))
    {value : Value} (hlevel : Level.ofLine value = .ok level) (record : Record) :
    let chain := c.chain.orElse fun _ => w.chain?
    let w' : World := { w with cores := w.cores.set id (.structured { c with chain }) }
    ((Standard.core id).sendLog value record).perform w =
      (Logger.logFields loggerName level eventName record chain).perform w' := by
  intro chain w'
  have hchain : (useChain id c).perform w = (.ok chain, w') := rfl
  show (Standard.current id >>= fun c => c.sendLog value record).perform w = _
  rw [perform_bind_ok (Standard.perform_current hc)]
  show (Act.ofExcept (Level.ofLine value) >>= fun level => useChain id c >>= fun chain => _).perform w = _
  rw [hlevel, perform_bind_ok (perform_ofExcept (.ok level) w), perform_bind_ok hchain]

/-- A record is not sent at a level whose text cannot be made. -/
theorem perform_sendLog_error {id : Nat} {c : StructuredCore} (hc : w.cores.get? id = some (.structured c))
    {value : Value} {f : Failure} (hlevel : Level.ofLine value = .error f) (record : Record) :
    ((Standard.core id).sendLog value record).perform w = (.error f, w) := by
  show (Standard.current id >>= fun c => c.sendLog value record).perform w = _
  rw [perform_bind_ok (Standard.perform_current hc)]
  show (Act.ofExcept (Level.ofLine value) >>= fun level => useChain id c >>= fun chain => _).perform w = _
  rw [hlevel]
  rfl

/-- **A record of a level that passes becomes one event**, which is handed over once. -/
theorem perform_sendLog {id : Nat} {c : StructuredCore} {s : LoggingState} {value : Value}
    (hc : w.cores.get? id = some (.structured c)) (hs : w.lineLogging = some s)
    (hlevel : Level.ofLine value = .ok level) (hpass : w.loggers.passes s loggerName level = true)
    (record : Record) :
    let chain := c.chain.orElse fun _ => w.chain?
    let w' : World := { w with cores := w.cores.set id (.structured { c with chain }) }
    ((Standard.core id).sendLog value record).perform w = match sentEvent level record w with
      | .ok event => (Logger.handOver loggerName level chain event).perform w'
      | .error f => (.error f, w') := by
  intro chain w'
  have hemit := @Logger.perform_emit w' s loggerName level chain hs hpass (named record)
  have hwriter : refuseParameters w'.loggerKind.writerName = refuseParameters w.loggerKind.writerName := rfl
  have hreveal : w'.reveal = w.reveal := World.reveal_congr rfl rfl
  have hcomplete : Event.complete loggerName level w'.activeId w'.span =
      Event.complete loggerName level w.activeId w.span := rfl
  rw [perform_sendLog_logFields hc hlevel]
  unfold Logger.logFields Logger.write sentEvent
  dsimp only
  cases (LogMethod.ofLevel level).signature.check
      ("BoundLogger." ++ (LogMethod.ofLevel level).name) 1 record.keys with
  | error f => rfl
  | ok u =>
    rw [perform_bind_ok (perform_ofExcept (.ok u) w'), perform_bind_ok (perform_get w'), hwriter]
    cases refuseParameters w.loggerKind.writerName ["method_name"] (record.erase "event").keys with
    | error f => rfl
    | ok u =>
      rw [perform_bind_ok (perform_ofExcept (.ok u) w')]
      refine hemit.trans ?_
      rw [hcomplete]
      cases Event.complete loggerName level w.activeId w.span (named record) with
      | error f => rfl
      | ok finished =>
        show (Logger.handOver _ _ _ (finished.map w'.reveal)).perform w' = _
        rw [hreveal]
        rfl

/-! ## What the event holds -/

theorem get?_named (hrecord : record.WellFormed) (name : String) : (named record).get? name =
    if name = "event" then ((record.get? "event").getD (.text eventName)).toOption else record.get? name := by
  unfold named
  rw [Event.get?_assemble (nodup_keys_erase hrecord _), get?_erase]
  generalize (record.get? "event").getD (.text eventName) = v
  by_cases hname : name = "event"
  · simp only [hname, true_and, if_true]
    cases hn : v.isNull with
    | true => rw [Value.isNull_iff.1 hn]; rfl
    | false => rw [Value.toOption_of_ne (Value.isNull_eq_false_iff.1 hn)]; rfl
  · simp [hname]

/-- The event of a record as it is handed over, if nothing is in the way. -/
def sent (level : Level) (record : Record) (w : World) : Record :=
  (Event.addContext w.activeId w.span (Event.stamped loggerName level (named record))).map w.reveal

/-- The stages of an event that gets sent. -/
theorem of_sentEvent (h : sentEvent level record w = .ok event) :
    ∃ a, (LogMethod.ofLevel level).signature.check ("BoundLogger." ++ (LogMethod.ofLevel level).name) 1 record.keys =
        .ok a ∧
      ∃ b, refuseParameters w.loggerKind.writerName ["method_name"] (record.erase "event").keys = .ok b ∧
        ∃ finished, Event.complete loggerName level w.activeId w.span (named record) = .ok finished ∧
          finished.map w.reveal = event := by
  obtain ⟨a, hcheck, h⟩ := of_bind_eq_ok h
  obtain ⟨b, hrefuse, h⟩ := of_bind_eq_ok h
  obtain ⟨finished, hcomplete, h⟩ := of_bind_eq_ok h
  exact ⟨a, hcheck, b, hrefuse, finished, hcomplete, Except.ok.inj h⟩

/-- Names and the value under `_record` are what can be in the way of an event. -/
theorem sentEvent_eq (hrecord : record.WellFormed) (hself : "self" ∉ record.keys)
    (hmethod : "method_name" ∉ record.keys) (hnull : record.value "_record" = .null) :
    sentEvent level record w = .ok (sent level record w) := by
  have hcheck : (LogMethod.ofLevel level).signature.check ("BoundLogger." ++ (LogMethod.ofLevel level).name) 1
      record.keys = .ok () := (Signature.check_eq_ok_iff rfl _ _).2 (List.forall_mem_singleton.2 hself)
  have hrefuse : refuseParameters w.loggerKind.writerName ["method_name"] (record.erase "event").keys = .ok () := by
    rw [refuseParameters_eq_ok_iff, List.forall_mem_singleton, keys_erase]
    exact fun hmem => hmethod (List.mem_filter.1 hmem).1
  have hnull' : (named record).value "_record" = .null := by
    rw [OrderedMap.value, get?_named hrecord]
    exact hnull
  unfold sentEvent
  dsimp only
  rw [hcheck, hrefuse]
  show (Event.complete _ _ _ _ (named record)).map _ = _
  rw [Event.complete_eq hnull']
  rfl

/-- What the event holds in any case. -/
def fixed (level : Level) : List (String × Value) := ("event", .text eventName) :: Event.fixed loggerName level

section

variable {name : String} {v : Value}

end

/-- A record's line is kept at one stage. -/
theorem filter_stages_loggerName (tree : LoggerTree) :
    (tree.stages loggerName).filter Prod.fst = [(true, (tree.options LoggingState.nameSpace).handlers)] := by
  have habove : LoggerTree.above loggerName = [loggerName, LoggingState.nameSpace, LoggerTree.root] := by rfl
  have hlogger : (loggerName == LoggingState.nameSpace) = false := by decide
  have hroot : (LoggerTree.root == LoggingState.nameSpace) = false := by decide
  simp [LoggerTree.stages, habove, hlogger, hroot]

/-- Whatever becomes of an event that is handed over, there is no line of it, or one that shows it. -/
theorem lines_handOver (level : Level) (chain : Option Chain) (event : Record) (w : World) :
    let w' := ((Logger.handOver loggerName level chain event).perform w).2
    w'.lines = w.lines ∨ ∃ text, (w.layoutOf chain).render event = .ok text ∧
      w'.lines = w.lines ++ [⟨loggerName, level, text⟩] := by
  intro w'
  cases htext : (w.layoutOf chain).render event with
  | error f =>
    refine .inl ?_
    unfold w' Logger.handOver
    rw [perform_bind_ok (perform_get w), htext]
    rfl
  | ok text =>
    obtain ⟨k, hk, hlines⟩ :=
      Logger.exists_lines_deliver ⟨loggerName, level, text⟩ (w.loggers.stages loggerName) w
    have hw' : w'.lines = w.lines ++ List.replicate k ⟨loggerName, level, text⟩ := by
      unfold w' Logger.handOver
      rw [perform_bind_ok (perform_get w), htext, perform_bind_ok (perform_ofExcept (.ok text) w)]
      exact hlines
    rw [filter_stages_loggerName] at hk
    rcases Nat.le_one_iff_eq_zero_or_eq_one.1 hk with rfl | rfl
    · exact .inl (hw'.trans (List.append_nil _))
    · exact .inr ⟨text, rfl, hw'⟩

/-- Whatever becomes of a record that is sent, there is no line of it, or one that shows its event. -/
theorem lines_sendLog {id : Nat} {c : StructuredCore} (hc : w.cores.get? id = some (.structured c)) (value : Value)
    (record : Record) :
    let w' := (((Standard.core id).sendLog value record).perform w).2
    w'.lines = w.lines ∨ ∃ event text, sentEvent (Level.orInfo value) record w = .ok event ∧
      (w.layoutOf (c.chain.orElse fun _ => w.chain?)).render event = .ok text ∧
      w'.lines = w.lines ++ [⟨loggerName, Level.orInfo value, text⟩] := by
  intro w'
  let chain := c.chain.orElse fun _ => w.chain?
  let v : World := { w with cores := w.cores.set id (.structured { c with chain }) }
  cases hlevel : Level.ofLine value with
  | error f =>
    refine .inl ?_
    unfold w'
    rw [perform_sendLog_error hc hlevel]
  | ok level =>
    rw [← Level.eq_orInfo_of_ofLine hlevel]
    by_cases hpass : ∃ s, w.lineLogging = some s ∧ w.loggers.passes s loggerName level = true
    · obtain ⟨s, hs, hpass⟩ := hpass
      have hsend : ((Standard.core id).sendLog value record).perform w = match sentEvent level record w with
          | .ok event => (Logger.handOver loggerName level chain event).perform v
          | .error f => (.error f, v) := perform_sendLog hc hs hlevel hpass record
      have hlayout : v.layoutOf chain = w.layoutOf chain := by
        have hreveal : v.reveal = w.reveal := World.reveal_congr rfl rfl
        have hsettled : v.settled = w.settled := by
          funext layout
          rw [World.settled, World.settled, hreveal]
        unfold World.layoutOf World.sharedLayout
        rw [hsettled]
        rfl
      unfold w'
      rw [hsend]
      cases sentEvent level record w with
      | error f => exact .inl rfl
      | ok event =>
        refine (lines_handOver level chain event v).imp_right ?_
        rintro ⟨text, htext, hlines⟩
        exact ⟨event, text, rfl, hlayout ▸ htext, hlines⟩
    · refine .inl ?_
      have hnot (s : LoggingState) (hs : w.lineLogging = some s) : w.loggers.passes s loggerName level = false :=
        Bool.eq_false_iff.2 fun h => hpass ⟨s, hs, h⟩
      have hleft : ((Logger.logFields loggerName level eventName record chain).perform v).2 = v :=
        Logger.perform_logFields_of_not_passes (w := v) hnot eventName record
      unfold w'
      rw [perform_sendLog_logFields hc hlevel]
      show _ = v.lines
      exact congrArg World.lines hleft

/-- Logging of the level `info` and above. -/
def fromInfo : LoggingState := ⟨"INFO", LoggingState.defaultLayout, Level.info.number⟩

/-- A core, with logging configured. -/
def configured : World := { cores := ⟨[.structured { config := Builtin.fieldConfig }]⟩, logging := some fromInfo }

end StructuredCore

end ActivityLog
