import ActivityLog.Proofs.Core.Sending
import ActivityLog.Proofs.Logging.Lines
import ActivityLog.Proofs.Logging.Reconfiguration

/-!
# Levels of lines

A structured core sends records, logs messages and sets the level from which on there are lines of them; the levels that
it is given may be any values. `CoreCall.Answers` says what comes of each call, given the level that was set last.

- `Ready.setLevel`, `Ready.send` and `Ready.message` are the calls one by one; each keeps what the next one needs
  (`CoreCall.ready_step`), so that all of them do (`CoreCall.ready_run`).
- `answers_after_create`: whatever a core has been called for since it was made, the next call answers by the level of
  the last change that succeeded.
- `not_sendLog_one_line` is a record of a level that passes, without a line.
-/

namespace ActivityLog

open Act OrderedMap

/-! ## Names of levels -/

namespace Level

/-- All names of levels. -/
def names : List String := all.map name ++ aliases.map Prod.fst

theorem ofName?_eq_none_iff (name : String) : ofName? name = none ↔ name ∉ names := by
  have hall : (all.find? fun l => l.name == name) = none ↔ name ∉ all.map Level.name := by
    rw [List.find?_eq_none, List.mem_map]
    simp
  have haliases : aliases.lookup name = none ↔ name ∉ aliases.map Prod.fst := by
    rw [← Option.not_isSome_iff_eq_none, lookup_isSome_iff]
  rw [names, List.mem_append, not_or, ← hall, ← haliases, ofName?]
  cases aliases.lookup name <;> simp

theorem lower_name (l : Level) : Text.lower l.name = l.name := by cases l <;> decide +kernel

end Level

/-! ## Calls -/

/-- A call of a core that has to do with levels. -/
inductive CoreCall where
  | setLevel (level : Value)
  | send (level : Value) (record : Record)
  | message (level text : Value) (fields : Record)

/-- The loggers of records and of messages. -/
def lineLoggers : List String := [StructuredCore.loggerName, RequestContext.loggerName]

/-- What the fields of a record must not be called: the parameters on their way to a line, and names that mean something
there. -/
def recordNames : List String := ["self", "method_name"] ++ Event.reserved

/-- What the fields of a message must not be called. -/
def fieldNames : List String := ["self", "level", "message", "event", "method_name"] ++ Event.reserved

/-- What the attributes of a context must not be called. -/
def attributeNames : List String := ["self", "correlation_id"] ++ Event.reserved

/-- A context that can go with every message. -/
structure RequestContext.Plain (w : World) (c : RequestContext) : Prop where
  names : c.attributes.Avoids attributeNames
  id : w.CanWrite c.correlationId
  values : c.attributes.Forall w.CanWrite

/-- The active context, if there is one, can go with every message. -/
def World.ContextPlain (w : World) : Prop :=
  ∀ n, w.contexts.active = some n → ∃ c, w.contexts.table.get? n = some c ∧ c.Plain w

/-- The state with another level of the shared configuration. -/
def World.atLevel (w : World) (l : Level) : World :=
  { w with logging := w.logging.map fun s => { s with level := l.capitals, threshold := l.number } }

namespace CoreCall

/-- What a call does. -/
def act (id : Nat) : CoreCall → Act Unit
  | setLevel level => (Standard.core id).setLoggingLevel level
  | send level record => (Standard.core id).sendLog level record
  | message level text fields => (Standard.core id).logMessage level text fields

/-- The state after a call, whether it fails or not. -/
def step (id : Nat) (w : World) (c : CoreCall) : World := ((c.act id).perform w).2

/-- The state after some calls. -/
def run (id : Nat) (w : World) (calls : List CoreCall) : World := calls.foldl (step id) w

/-- The level from which on there are lines after a call. -/
def levelAfter (l : Level) : CoreCall → Level
  | setLevel level => (Level.ofValue? level).getD l
  | send _ _ => l
  | message _ _ _ => l

/-- The level of the last change that succeeded. -/
def lastLevel (l : Level) (calls : List CoreCall) : Level := calls.foldl levelAfter l

/-- A call whose fields are called nothing in particular, and whose level and values can be written. -/
def Plain (w : World) : CoreCall → Prop
  | setLevel _ => True
  | send level record => (∃ l, Level.ofLine level = .ok l) ∧ record.Avoids recordNames ∧ record.Forall w.CanWrite
  | message level text fields =>
    (∃ l, Level.ofLine level = .ok l) ∧ fields.Avoids fieldNames ∧ w.CanWrite text ∧ fields.Forall w.CanWrite

/-- What comes of something that is to be written at a level: at most one line, and only if the level passes. Nothing
fails that is plain, and there is a line of it exactly if the level passes. -/
structure Writes (logger : String) (l level : Level) (plain : Prop) (w : World) (out : Except Failure Unit × World) :
    Prop where
  atMostOne : out.2.lines = w.lines ∨
    l.number ≤ level.number ∧ ∃ text, out.2.lines = w.lines ++ [⟨logger, level, text⟩]
  ofPlain : plain → out.1 = .ok () ∧
    ((∃ text, out.2.lines = w.lines ++ [⟨logger, level, text⟩]) ↔ l.number ≤ level.number)

/-- What comes of a call while lines are written from a level on. -/
def Answers (id : Nat) (l : Level) (w : World) (c : CoreCall) : Prop :=
  let out := (c.act id).perform w
  match c with
  | setLevel level =>
    match Level.textOf level with
    | .ok text => (∀ f v, out = (.error f, v) ↔ text ∉ Level.names ∧ f = Level.unknown level ∧ v = w) ∧
      ∀ l', Level.ofName? text = some l' → out = (.ok (), w.atLevel l')
    | .error f => out = (.error f, w)
  | send level _ => Writes StructuredCore.loggerName l (.orInfo level) (c.Plain w) w out
  | message level _ _ => Writes RequestContext.loggerName l (.orInfo level) (c.Plain w) w out

end CoreCall

/-! ## Fields that are written -/

namespace Logger

variable {w : World} {loggers : List String} {logger : String} {l level : Level} {chain : Option Chain}
  {bound fields record : Record}

theorem write_wrote (h : w.WritesFrom loggers l) (hlogger : logger ∈ loggers) (bound : Record) (event : Value)
    (fields : Record) : Wrote logger l level w ((write logger bound level event fields chain).perform w) := by
  unfold write
  rw [perform_bind_ok (perform_get w)]
  exact .ofExcept fun _ _ => emit_wrote h hlogger _

theorem perform_write_of_plain (h : w.WritesFrom loggers l) (hlogger : logger ∈ loggers)
    (hchain : ∀ layout, chain ≠ some (.apart layout)) (hbound : Event.Plain w bound) (hfields : Event.Plain w fields)
    (hmethod : "method_name" ∉ fields.keys) {event : Value} (hevent : w.CanWrite event)
    (hid : ∀ id, w.activeId = some id → w.CanWrite id) :
    WroteOne logger l level w ((write logger bound level event fields chain).perform w) := by
  have hrefuse : refuseParameters w.loggerKind.writerName ["method_name"] fields.keys = .ok () :=
    (refuseParameters_eq_ok_iff _ _ _).2 (List.forall_mem_singleton.2 hmethod)
  unfold write
  rw [perform_bind_ok (perform_get w)]
  dsimp only
  rw [hrefuse, perform_bind_ok (perform_ofExcept (.ok ()) w)]
  exact perform_emit_of_plain h hlogger hchain (hbound.assemble hfields hevent) hid

theorem logFields_wrote (h : w.WritesFrom loggers l) (hlogger : logger ∈ loggers) (event : String) (fields : Record) :
    Wrote logger l level w ((logFields logger level event fields chain).perform w) :=
  .ofExcept fun _ _ => write_wrote h hlogger _ _ _

theorem perform_logFields_of_plain (h : w.WritesFrom loggers l) (hlogger : logger ∈ loggers)
    (hchain : ∀ layout, chain ≠ some (.apart layout))
    (hnames : record.Avoids recordNames) (hvalues : record.Forall w.CanWrite)
    (event : String) (hid : ∀ id, w.activeId = some id → w.CanWrite id) :
    WroteOne logger l level w ((logFields logger level event record chain).perform w) := by
  have hcheck : (LogMethod.ofLevel level).signature.check ("BoundLogger." ++ (LogMethod.ofLevel level).name) 1
      record.keys = .ok () :=
    (Signature.check_eq_ok_iff rfl _ _).2 (List.forall_mem_singleton.2 (hnames _ (by decide)))
  have hname : w.CanWrite ((record.get? "event").getD (.text event)) := by
    cases hv : record.get? "event" with
    | none => exact w.canWrite_text event
    | some v => exact hvalues.get? hv
  have hreserved : record.Avoids Event.reserved := hnames.mono (List.subset_append_right _ _)
  unfold logFields
  dsimp only
  rw [hcheck, perform_bind_ok (perform_ofExcept (.ok ()) w)]
  exact perform_write_of_plain h hlogger hchain ⟨fun _ _ => List.not_mem_nil, forall_empty⟩
    ⟨hreserved.erase "event", hvalues.erase "event"⟩ (hnames.erase "event" _ (by decide)) hname hid

end Logger

/-! ## Messages -/

namespace RequestContext

variable {w : World} {loggers : List String} {l level : Level} {c : RequestContext} {message : Value} {fields : Record}

/-- Fields that are called nothing in particular are not called like the parameters of a message. -/
theorem refuseParameters_of_avoids (hnames : fields.Avoids fieldNames) (function : String) :
    refuseParameters function ["self", "level", "message"] fields.keys = .ok () := by
  refine (refuseParameters_eq_ok_iff _ _ _).2 fun name hname => hnames name ?_
  exact List.mem_append_left _ (List.mem_append_left ["event", "method_name"] hname)

/-- A message is logged with the method of its level. -/
theorem attribute?_name (kind : LoggerKind) (level : Level) :
    Logger.attribute? kind loggerName level.name = some (.method (kind.methodOf level)) := by
  rw [Logger.attribute?, (kind.lookup_methods_name level).1]

theorem logMessage_wrote (h : w.WritesFrom loggers l) (hlogger : loggerName ∈ loggers) (c : RequestContext)
    (level : Level) (message : Value) (fields : Record) :
    Logger.Wrote loggerName l level w ((c.logMessage (.text level.name) message fields).perform w) := by
  unfold logMessage
  refine .ofExcept fun _ _ => .ofExcept fun bound _ => .ofExcept fun name hname => ?_
  obtain rfl : level.name = name := by rw [← level.lower_name, Except.ok.inj hname]
  rw [perform_bind_ok (perform_get w)]
  dsimp only
  rw [attribute?_name]
  refine .ofExcept fun _ _ => ?_
  rw [perform_bind_ok (perform_get w), (w.loggerKind.lookup_methods_name level).2]
  exact Logger.write_wrote h hlogger bound message fields

/-- What the logger of a plain context adds to every event is plain. -/
theorem Plain.bound (hc : c.Plain w) : ∃ bound, c.bound = .ok bound ∧ Event.Plain w bound := by
  have hid : c.attributes.contains "correlation_id" = false :=
    Bool.eq_false_iff.2 fun h => hc.names _ (by decide) (contains_iff.1 h)
  have hself : refuseParameters "BoundLoggerLazyProxy.bind" ["self"] c.attributes.keys = .ok () :=
    (refuseParameters_eq_ok_iff _ _ _).2 (List.forall_mem_singleton.2 (hc.names _ (by decide)))
  refine ⟨(OrderedMap.ofList [("correlation_id", c.correlationId)]).insertAll c.attributes.entries, ?_, ?_, ?_⟩
  · rw [RequestContext.bound, hid, if_neg Bool.false_ne_true, hself]
  · have hfirst : (OrderedMap.ofList [("correlation_id", c.correlationId)]).Avoids Event.reserved := by
      intro name hname hmem
      obtain rfl : name = "correlation_id" := List.mem_singleton.1 hmem
      exact absurd hname (by decide)
    exact hfirst.insertAll (hc.names.mono (List.subset_append_right _ _))
  · exact (forall_empty.insert hc.id "correlation_id").insertAll hc.values

theorem perform_logMessage_of_plain (h : w.WritesFrom loggers l) (hlogger : loggerName ∈ loggers) (hc : c.Plain w)
    (hnames : fields.Avoids fieldNames)
    (hmessage : w.CanWrite message) (hvalues : fields.Forall w.CanWrite)
    (hid : ∀ id, w.activeId = some id → w.CanWrite id) :
    Logger.WroteOne loggerName l level w ((c.logMessage (.text level.name) message fields).perform w) := by
  have hchain (layout : Layout) : (none : Option Chain) ≠ some (.apart layout) := nofun
  obtain ⟨bound, hbound, hplain⟩ := hc.bound
  obtain ⟨s, hs, -, -⟩ := h.shared
  have hkind : w.loggerKind = .full := by
    rw [World.loggerKind, Logger.lineLogging_eq h hs]
    rfl
  have hname : methodName (.text level.name) = .ok level.name := congrArg Except.ok level.lower_name
  have hcheck : (LogMethod.ofLevel level).signature.check (LogMethod.ofLevel level).qualified 2 fields.keys =
      .ok () := by
    refine (Signature.check_eq_ok_iff_of_le rfl (by decide : 1 ≤ 2) (by decide : 2 ≤ 2) _ _).2 fun name hmem => ?_
    have hmem' : name ∈ ["self", "event"] := hmem
    simp only [List.mem_cons, List.not_mem_nil, or_false] at hmem'
    rcases hmem' with rfl | rfl <;> exact hnames _ (by decide)
  unfold logMessage
  rw [refuseParameters_of_avoids hnames, perform_bind_ok (perform_ofExcept (.ok ()) w), hbound,
    perform_bind_ok (perform_ofExcept (.ok bound) w), hname, perform_bind_ok (perform_ofExcept (.ok level.name) w),
    perform_bind_ok (perform_get w)]
  dsimp only
  rw [attribute?_name, hkind]
  show Logger.WroteOne _ _ _ _ ((Logger.call loggerName bound (LogMethod.ofLevel level) message fields).perform w)
  unfold Logger.call
  rw [hcheck, perform_bind_ok (perform_ofExcept (.ok ()) w), perform_bind_ok (perform_get w)]
  exact Logger.perform_write_of_plain h hlogger hchain hplain
    ⟨hnames.mono (List.subset_append_right _ _), hvalues⟩ (hnames _ (by decide)) hmessage hid

end RequestContext

/-! ## Calls one by one -/

/-- Lines are written from a level on, a structured core writes its own the same way, and the active context can go with
every message. -/
structure Ready (id : Nat) (l : Level) (w : World) : Prop where
  core : ∃ c, w.cores.get? id = some (.structured c) ∧ ∀ layout, c.chain ≠ some (.apart layout)
  writes : w.WritesFrom lineLoggers l
  context : w.ContextPlain

/-- What can be written is up to hosts and logs. -/
theorem World.canWrite_congr {w w' : World} (hosts : w'.hosts = w.hosts) (lifecycles : w'.lifecycles = w.lifecycles) :
    w'.CanWrite = w.CanWrite := by
  funext v
  rw [CanWrite, CanWrite, World.reveal_congr hosts lifecycles]

theorem World.WritesFrom.of_same {w w' : World} {loggers : List String} {l : Level} (h : w.WritesFrom loggers l)
    (logging : w'.logging = w.logging) (own : w'.ownLogging = w.ownLogging) (tuned : w'.loggers = w.loggers) :
    w'.WritesFrom loggers l :=
  ⟨logging ▸ h.shared, own.trans h.own, fun logger hlogger => tuned ▸ h.below logger hlogger⟩

theorem World.ContextPlain.of_same {w w' : World} (h : w.ContextPlain) (hosts : w'.hosts = w.hosts)
    (lifecycles : w'.lifecycles = w.lifecycles) (contexts : w'.contexts = w.contexts) : w'.ContextPlain := by
  intro n hn
  obtain ⟨c, hc, hplain⟩ := h n (contexts ▸ hn)
  have hcan := World.canWrite_congr hosts lifecycles
  exact ⟨c, contexts ▸ hc, hplain.names, hcan ▸ hplain.id, hcan ▸ hplain.values⟩

/-- The active correlation id can be written if the context can go with messages. -/
theorem World.ContextPlain.canWrite_activeId {w : World} (h : w.ContextPlain) {v : Value}
    (hv : w.activeId = some v) : w.CanWrite v := by
  obtain ⟨c, hc, rfl⟩ := Option.map_eq_some_iff.1 hv
  obtain ⟨n, hn, hget⟩ := Option.bind_eq_some_iff.1 hc
  obtain ⟨c', hc', hplain⟩ := h n hn
  obtain rfl : c = c' := Option.some.inj (hget.symm.trans hc')
  exact hplain.id

/-- An attempt to write, from a state that differs in no line and in nothing that the next call needs. -/
def Attempted (id : Nat) (logger : String) (l level : Level) (plain : Prop) (w : World)
    (out : Except Failure Unit × World) : Prop :=
  ∃ v, v.lines = w.lines ∧ Ready id l v ∧ Logger.Wrote logger l level v out ∧
    (plain → Logger.WroteOne logger l level v out)

namespace Ready

variable {id : Nat} {l : Level} {w : World}

theorem withLine (h : Ready id l w) (line : Line) : Ready id l (w.withLine line) :=
  ⟨h.core, h.writes.of_same rfl rfl rfl, h.context.of_same rfl rfl rfl⟩

theorem atLevel (h : Ready id l w) (l' : Level) : Ready id l' (w.atLevel l') := by
  obtain ⟨s, hs, -, htextual⟩ := h.writes.shared
  refine ⟨h.core, ⟨⟨{ s with level := l'.capitals, threshold := l'.number }, ?_, rfl, htextual⟩, h.writes.own,
    h.writes.below⟩, h.context.of_same rfl rfl rfl⟩
  rw [World.atLevel, hs]
  rfl

/-- **Setting the level**: a level that is none is refused, and nothing changes; any other is in force from then on. -/
theorem setLevel (h : Ready id l w) (level : Value) : ((Standard.core id).setLoggingLevel level).perform w =
    match Level.ofValue level with
    | .ok l' => (.ok (), w.atLevel l')
    | .error f => (.error f, w) := by
  obtain ⟨c, hc, -⟩ := h.core
  obtain ⟨s, hs, -, -⟩ := h.writes.shared
  show (Standard.current id >>= fun c => c.setLoggingLevel level).perform w = _
  rw [perform_bind_ok (Standard.perform_current hc)]
  show (Act.ofExcept (Level.ofValue level) >>= fun l' => Act.setLoggingLevel l'.name).perform w = _
  cases Level.ofValue level with
  | error f => rfl
  | ok l' =>
    have hset : s.setLevel l'.name = ({ s with level := l'.capitals, threshold := l'.number }, .ok ()) := by
      simp only [LoggingState.setLevel, l'.upper_name, l'.thresholdOf_capitals]
    have hown : w.ownLogging.map (fun s => { s with threshold := (l'.number : Int) }) = w.ownLogging := by
      rw [h.writes.own]
      rfl
    dsimp only
    rw [perform_bind_ok (perform_ofExcept (.ok l') w), Reconfiguration.perform_setLoggingLevel hs, hset, World.atLevel,
      hs]
    unfold World.withThreshold
    dsimp only
    rw [hown]
    rfl

/-- **Sending a record** leaves at most one line behind, and exactly one of a plain record of a level that passes. -/
theorem send (h : Ready id l w) (level : Value) (record : Record) :
    Attempted id StructuredCore.loggerName l (.orInfo level) ((CoreCall.send level record).Plain w) w
      (((Standard.core id).sendLog level record).perform w) := by
  obtain ⟨c, hc, hchain⟩ := h.core
  obtain ⟨s, hs, -, -⟩ := h.writes.shared
  cases hlevel : Level.ofLine level with
  | error f =>
    rw [StructuredCore.perform_sendLog_error hc hlevel]
    refine ⟨w, rfl, h, .nothing (.error f), ?_⟩
    rintro ⟨⟨l', hl'⟩, -⟩
    cases hlevel.symm.trans hl'
  | ok l' =>
    let chain := c.chain.orElse fun _ => w.chain?
    let v : World := { w with cores := w.cores.set id (.structured { c with chain }) }
    -- The first record settles what the core's records go through, and that is the shared configuration here.
    have hnew : w.chain? = some .shared := by
      rw [World.chain?, h.writes.own, hs]
      rfl
    have hchain' (layout : Layout) : chain ≠ some (.apart layout) := by
      unfold chain
      rw [hnew]
      intro heq
      cases hc' : c.chain with
      | none =>
        rw [hc'] at heq
        cases heq
      | some known =>
        rw [hc'] at heq
        exact hchain layout (hc'.trans heq)
    have hv : v.WritesFrom lineLoggers l := h.writes.of_same rfl rfl rfl
    have hcontext : v.ContextPlain := h.context.of_same rfl rfl rfl
    have hlogger : StructuredCore.loggerName ∈ lineLoggers := List.mem_cons_self
    have hcan : v.CanWrite = w.CanWrite := World.canWrite_congr rfl rfl
    refine ⟨v, rfl, ⟨⟨_, Table.get?_set_self hc _, hchain'⟩, hv, hcontext⟩, ?_⟩
    rw [StructuredCore.perform_sendLog_logFields hc hlevel, ← Level.eq_orInfo_of_ofLine hlevel]
    refine ⟨Logger.logFields_wrote hv hlogger _ record, ?_⟩
    rintro ⟨-, hnames, hvalues⟩
    exact Logger.perform_logFields_of_plain hv hlogger hchain' hnames (hcan ▸ hvalues) _ fun _ =>
      hcontext.canWrite_activeId

/-- The context that a message goes with: the active one, or a fresh one. -/
theorem correlationContext (h : Ready id l w) : ∃ v n c, Act.correlationContext.perform w = (.ok n, v) ∧
    v.contexts.table.get? n = some c ∧ c.Plain v ∧ v.lines = w.lines ∧ Ready id l v ∧ v.CanWrite = w.CanWrite := by
  unfold Act.correlationContext
  rw [perform_bind_ok (perform_get w)]
  cases hactive : w.contexts.active with
  | some n =>
    obtain ⟨c, hc, hplain⟩ := h.context n hactive
    exact ⟨w, n, c, rfl, hc, hplain, rfl, h, rfl⟩
  | none =>
    let c : RequestContext := { correlationId := .text (World.idText (w.serial + 1)), detached := true }
    let v : World := { w with serial := w.serial + 1, contexts := w.contexts.add c }
    have hfresh : Act.detachedContext.perform w = (.ok w.contexts.table.next, v) := rfl
    have hcontext : v.ContextPlain := fun n hn => nomatch hactive.symm.trans hn
    exact ⟨v, _, c, hfresh, (Table.get?_add _ _ _).trans (if_pos rfl),
      ⟨fun _ _ => List.not_mem_nil, v.canWrite_text _, forall_empty⟩, rfl,
      ⟨h.core, h.writes.of_same rfl rfl rfl, hcontext⟩, World.canWrite_congr rfl rfl⟩

/-- **Logging a message** leaves at most one line behind, and exactly one of a plain message of a level that passes. -/
theorem message (h : Ready id l w) (level text : Value) (fields : Record) :
    Attempted id RequestContext.loggerName l (.orInfo level) ((CoreCall.message level text fields).Plain w) w
      (((Standard.core id).logMessage level text fields).perform w) := by
  obtain ⟨c, hc, -⟩ := h.core
  have hlogger : RequestContext.loggerName ∈ lineLoggers := List.mem_cons_of_mem _ List.mem_cons_self
  have hperform : ((Standard.core id).logMessage level text fields).perform w = (do
      Act.ofExcept (refuseParameters "StructlogLoggingCore.log_message" ["self", "level", "message"] fields.keys)
      let context ← Act.context (← Act.correlationContext)
      let level ← Act.ofExcept (Level.ofLine level)
      context.logMessage (.text level.name) text fields : Act Unit).perform w :=
    perform_bind_ok (Standard.perform_current hc) _
  rw [hperform]
  cases hrefuse : refuseParameters "StructlogLoggingCore.log_message" ["self", "level", "message"] fields.keys with
  | error f =>
    refine ⟨w, rfl, h, .nothing (.error f), ?_⟩
    rintro ⟨-, hnames, -⟩
    rw [RequestContext.refuseParameters_of_avoids hnames] at hrefuse
    cases hrefuse
  | ok u =>
    obtain ⟨v, n, context, hcontext, hget, hplain, hlines, hv, hcan⟩ := h.correlationContext
    have hfound : (Act.context n).perform v = (.ok context, v) := by
      unfold Act.context
      rw [perform_bind_ok (perform_get v), hget]
      rfl
    rw [perform_bind_ok (perform_ofExcept (.ok u) w), perform_bind_ok hcontext, perform_bind_ok hfound]
    cases hlevel : Level.ofLine level with
    | error f =>
      refine ⟨v, hlines, hv, .nothing (.error f), ?_⟩
      rintro ⟨⟨l', hl'⟩, -⟩
      cases hlevel.symm.trans hl'
    | ok l' =>
      rw [perform_bind_ok (perform_ofExcept (.ok l') v), ← Level.eq_orInfo_of_ofLine hlevel]
      refine ⟨v, hlines, hv, RequestContext.logMessage_wrote hv.writes hlogger context _ text fields, ?_⟩
      rintro ⟨-, hnames, htext, hvalues⟩
      exact RequestContext.perform_logMessage_of_plain hv.writes hlogger hplain hnames (hcan ▸ htext) (hcan ▸ hvalues)
        fun _ => hv.context.canWrite_activeId

end Ready

namespace Attempted

variable {id : Nat} {logger : String} {l level : Level} {plain : Prop} {w : World} {out : Except Failure Unit × World}

/-- An attempt to write keeps what the next call needs. -/
theorem ready (h : Attempted id logger l level plain w out) : Ready id l out.2 := by
  obtain ⟨v, -, hv, hwrote, -⟩ := h
  cases hwrote with
  | nothing => exact hv
  | line text _ => exact hv.withLine _

/-- There is one line more, or there is none. -/
theorem writes (h : Attempted id logger l level plain w out) : CoreCall.Writes logger l level plain w out := by
  obtain ⟨v, hlines, -, hwrote, hone⟩ := h
  have hmore (text : String) : w.lines ≠ w.lines ++ [⟨logger, level, text⟩] := fun heq =>
    absurd (List.self_eq_append_right.1 heq) (List.cons_ne_nil _ _)
  refine ⟨?_, fun hplain => ?_⟩
  · cases hwrote with
    | nothing => exact .inl hlines
    | line text hpass => exact .inr ⟨hpass, text, congrArg (· ++ [_]) hlines⟩
  · have hone := hone hplain
    unfold Logger.WroteOne at hone
    split at hone
    · next hpass =>
      obtain ⟨text, rfl⟩ := hone
      exact ⟨rfl, iff_of_true ⟨text, congrArg (· ++ [_]) hlines⟩ hpass⟩
    · next hpass =>
      rw [hone]
      exact ⟨rfl, iff_of_false (fun ⟨text, htext⟩ => hmore text (hlines.symm.trans htext)) hpass⟩

end Attempted

/-! ## Runs -/

namespace CoreCall

variable {id : Nat} {l : Level} {w : World}

/-- **One call**: whatever comes of it, the next one finds what it needs, at the level that the call leaves. -/
theorem ready_step (h : Ready id l w) (c : CoreCall) : Ready id (c.levelAfter l) (step id w c) := by
  cases c with
  | setLevel level =>
    unfold step act levelAfter
    dsimp only
    rw [h.setLevel, Level.ofValue?]
    cases Level.ofValue level with
    | error f => exact h
    | ok l' => exact h.atLevel l'
  | send level record => exact (h.send level record).ready
  | message level text fields => exact (h.message level text fields).ready

theorem ready_run (h : Ready id l w) (calls : List CoreCall) : Ready id (lastLevel l calls) (run id w calls) := by
  induction calls generalizing l w with
  | nil => exact h
  | cons c calls ih => exact ih (ready_step h c)

/-- **What comes of one call.** -/
theorem answers_of_ready (h : Ready id l w) (c : CoreCall) : c.Answers id l w := by
  cases c with
  | setLevel level =>
    unfold Answers act
    dsimp only
    rw [h.setLevel]
    cases htext : Level.textOf level with
    | error f => rw [Level.ofValue_of_textOf_error htext]
    | ok text =>
      rw [Level.ofValue_of_textOf htext]
      dsimp only
      rw [← Level.ofName?_eq_none_iff]
      cases Level.ofName? text with
      | none =>
        refine ⟨fun f v => ⟨?_, ?_⟩, fun l' hl' => nomatch hl'⟩
        · rintro ⟨⟩
          exact ⟨rfl, rfl, rfl⟩
        · rintro ⟨-, rfl, rfl⟩
          rfl
      | some l' =>
        refine ⟨fun f v => ⟨?_, ?_⟩, ?_⟩
        · rintro ⟨⟩
        · rintro ⟨⟨⟩, -⟩
        · rintro _ ⟨⟩
          rfl
  | send level record => exact (h.send level record).writes
  | message level text fields => exact (h.message level text fields).writes

end CoreCall

/-! ## Cores as they are made -/

namespace StructuredCore

/-- What a core that is made from the settings finds and leaves behind: logging is configured as the settings say, and
nothing has gone through the core yet. -/
theorem of_perform_create {config : Option FieldConfig} {w₀ w : World} {id : Nat}
    (h : (create Application.surroundings.resolve config).perform w₀ = (.ok id, w)) :
    ∃ s l fields, w.Follows s ∧ Level.ofValue? (.text s.logging.level) = some l ∧
      w.cores.get? id = some (.structured { config := fields }) := by
  unfold create at h
  obtain ⟨s, w₁, hsettings, h⟩ := of_perform_bind_eq h
  obtain ⟨u, w₂, hconfigure, h⟩ := of_perform_bind_eq h
  obtain ⟨fields, w₃, hfields, h⟩ := of_perform_bind_eq h
  obtain ⟨hid, rfl⟩ := Prod.mk.inj h
  obtain rfl := Except.ok.inj hid
  have hread : w₁.settings = some s := by
    rcases Reconfiguration.perform_settings_cases w₀ with ⟨s', hread⟩ | ⟨f, hread⟩ <;>
      cases hsettings.symm.trans hread
    rfl
  cases hs : s.loggingState? with
  | none =>
    rw [perform_configureLogging_none hs] at hconfigure
    cases hconfigure
  | some state =>
    obtain ⟨l, hl, -⟩ := Option.map_eq_some_iff.1 hs
    rw [perform_configureLogging hs] at hconfigure
    obtain ⟨-, rfl⟩ := Prod.mk.inj hconfigure
    have hkeeps : Keeps (StaysConfigured s) (chooseFields Application.surroundings.resolve config s.network) :=
      keeps_chooseFields (Application.staysConfigured_resolve Application.deepest) config s.network
    have hfollows := hkeeps { w₁ with logging := some state, ownLogging := none } ⟨hread, hs.symm, rfl⟩
    rw [hfields] at hfollows
    exact ⟨s, l, fields, ⟨hfollows.settings, hfollows.logging, hfollows.own⟩, hl,
      (Table.get?_add _ _ _).trans (if_pos rfl)⟩

end StructuredCore

theorem LoggerTree.below_of_mem : ∀ logger ∈ lineLoggers, Below logger := by
  unfold lineLoggers
  simp only [List.forall_mem_cons]
  exact ⟨rfl, rfl, nofun⟩

namespace CoreCall

/-- **Levels and lines of a core.** A core is made; nothing is set for single loggers, and the active context, if there
is one, can go with every message. The first level is that of the settings. Whatever the core has been called for since,

- the threshold in force is that of the last change of the level that succeeded;
- a change fails exactly if the text of the level, trimmed and in small letters, is no name of a level, or cannot be
  made; then nothing has changed, and otherwise the level that is named is in force;
- a record or a message leaves at most one line behind, with the level that it names, else `info`, and only if that
  passes. If its fields are not named like parameters or like what finishes lines, and their values and the level can be
  written, it does not fail, and there is a line exactly if the level passes. -/
theorem answers_after_create {config : Option FieldConfig} {w₀ w : World} {id : Nat}
    (hmade : (StructuredCore.create Application.surroundings.resolve config).perform w₀ = (.ok id, w))
    (htuned : ∀ logger ∈ lineLoggers, w.loggers.Untuned logger) (hcontext : w.ContextPlain) :
    ∃ s l, w.settings = some s ∧ Level.ofValue? (.text s.logging.level) = some l ∧ ∀ calls : List CoreCall,
      (run id w calls).logging.map (·.threshold) = some ((lastLevel l calls).number : Int) ∧
        ∀ c : CoreCall, c.Answers id (lastLevel l calls) (run id w calls) := by
  obtain ⟨s, l, fields, hfollows, hl, hcore⟩ := StructuredCore.of_perform_create hmade
  have hstate : w.logging = some ⟨l.capitals, ⟨.text s.logging.format, .ofText? s.logging.pattern⟩, l.number⟩ := by
    rw [hfollows.logging, Settings.loggingState?, hl]
    rfl
  have htextual : Layout.Textual ⟨.text s.logging.format, .ofText? s.logging.pattern⟩ := by
    cases s.logging.pattern with
    | none => exact .inl rfl
    | some pattern => exact .inr ⟨pattern, rfl⟩
  have hready : Ready id l w := ⟨⟨_, hcore, fun _ => nofun⟩, ⟨⟨_, hstate, rfl, htextual⟩, hfollows.own,
    fun logger hlogger => ⟨LoggerTree.below_of_mem logger hlogger, htuned logger hlogger⟩⟩, hcontext⟩
  refine ⟨s, l, hfollows.settings, hl, fun calls => ?_⟩
  have hrun := ready_run hready calls
  obtain ⟨state, hlogging, hthreshold, -⟩ := hrun.writes.shared
  exact ⟨by rw [hlogging, Option.map_some, hthreshold], answers_of_ready hrun⟩

/-- An application whose settings ask for lines from warnings on. -/
def heedful : World := { settings := some { logging := { level := "WARN" } } }

/-- Its core, once a level was refused and another one set. -/
def corrected : World :=
  run 0 ((StructuredCore.create Application.surroundings.resolve (some {})).perform heedful).2
    [.setLevel (.text "loud"), .setLevel (.text " Error ")]

/-- A record at the level `fatal` has one line then, of the level `critical`. -/
theorem answers_after_create_fatal :
    let made := (StructuredCore.create Application.surroundings.resolve (some {})).perform heedful
    made.1 = .ok 0 ∧ (∀ logger ∈ lineLoggers, made.2.loggers.Untuned logger) ∧ made.2.ContextPlain ∧
    ∃ text, (((Standard.core 0).sendLog (.text "fatal") ⟨[("status", .int 200)]⟩).perform corrected).2.lines =
      corrected.lines ++ [⟨"netlog.network", .critical, text⟩] := by
  intro made
  have hmade : (StructuredCore.create Application.surroundings.resolve (some {})).perform heedful = (.ok 0, made.2) :=
    perform_of_toOption (by decide +kernel)
  have htuned : ∀ logger ∈ lineLoggers, made.2.loggers.Untuned logger := fun logger _ name _ => rfl
  have hcontext : made.2.ContextPlain := fun n hn => nomatch hn
  obtain ⟨s, l, hs, hl, hruns⟩ := answers_after_create hmade htuned hcontext
  obtain ⟨-, hanswers⟩ := hruns [.setLevel (.text "loud"), .setLevel (.text " Error ")]
  have hlevel : lastLevel l [.setLevel (.text "loud"), .setLevel (.text " Error ")] = .error := by
    show ((Level.ofValue? (.text " Error ")).getD ((Level.ofValue? (.text "loud")).getD l)) = .error
    have hnamed : Level.ofValue? (.text " Error ") = some .error := by decide +kernel
    rw [hnamed]
    rfl
  have hnamed : Level.ofValue? (.text "fatal") = some .critical := by decide +kernel
  have hfatal : Level.orInfo (.text "fatal") = .critical := by rw [Level.orInfo, hnamed, Option.getD_some]
  have hplain : (send (.text "fatal") ⟨[("status", .int 200)]⟩).Plain corrected := by
    have hvalue : corrected.CanWrite (.int 200) := by
      rw [World.CanWrite, World.reveal_of_isJson _ rfl]
      exact ⟨by decide +kernel, rfl⟩
    refine ⟨⟨_, Level.ofLine_of_ofValue? hnamed⟩, by unfold OrderedMap.Avoids; decide, fun e he => ?_⟩
    obtain rfl := List.mem_singleton.1 he
    exact hvalue
  have hsend : Writes "netlog.network" (lastLevel l _) (Level.orInfo (.text "fatal")) _ corrected _ :=
    hanswers (.send (.text "fatal") ⟨[("status", .int 200)]⟩)
  rw [hlevel, hfatal] at hsend
  exact ⟨congrArg Prod.fst hmade, htuned, hcontext, (hsend.ofPlain hplain).2.2 (by decide)⟩

/-- A whole number with one digit more than are written. -/
def overlong : Int := tenTo Value.digitLimit

/-- **A record of a level that passes may have no line**: one that holds a number with too many digits is refused. -/
theorem not_sendLog_one_line :
    let w := StructuredCore.configured
    let record : Record := ⟨[("size", .int overlong)]⟩
    let out := ((Standard.core 0).sendLog (.text "info") record).perform w
    w.cores.get? 0 = some (.structured { config := Builtin.fieldConfig }) ∧
    w.logging.map (·.threshold) = some (Level.info.number : Int) ∧
    record.Avoids recordNames ∧ out.1 = .error .longNumber ∧ out.2.lines = [] := by
  -- Nothing but the number's length matters, so that it is not written out by the steps that follow.
  have hlong : (Value.int overlong).holdsLong = true := by decide +kernel
  generalize overlong = n at hlong ⊢
  intro w record out
  have hrecord : record.WellFormed := List.pairwise_singleton _ _
  have hnames : record.Avoids recordNames := by
    intro name hname hmem
    obtain rfl : name = "size" := List.mem_singleton.1 hmem
    exact absurd hname (by decide)
  have hlevel : Level.ofLine (.text "info") = .ok .info := Level.ofLine_of_ofValue? (by decide +kernel)
  have hpass : w.loggers.passes StructuredCore.fromInfo StructuredCore.loggerName .info = true := by decide
  let event : Record := ⟨[("size", .int n), ("event", .text "network_activity"),
    ("logger", .text "netlog.network"), ("level", .text "info"), ("timestamp", .text Event.timestamp)]⟩
  have hsent : StructuredCore.sent .info record w = event := rfl
  have hevent : StructuredCore.sentEvent .info record w = .ok event := by
    rw [StructuredCore.sentEvent_eq hrecord (hnames _ (by decide)) (hnames _ (by decide)) rfl, hsent]
  have hline : Json.line event = .error .longNumber := by
    have hflat : Json.haveCircular event.entries = false := rfl
    have hholds : Value.entriesHoldLong event.entries = true := by
      rw [Value.entriesHoldLong, hlong, Bool.true_or]
    rw [Json.line, hflat, hholds]
    rfl
  let w' : World :=
    { w with cores := w.cores.set 0 (.structured { config := Builtin.fieldConfig, chain := some .shared }) }
  have hout : out = (.error .longNumber, w') := by
    have hperform := @StructuredCore.perform_sendLog w .info 0 { config := Builtin.fieldConfig }
      StructuredCore.fromInfo (.text "info") rfl rfl hlevel hpass record
    rw [hevent] at hperform
    refine hperform.trans ?_
    show (Logger.handOver StructuredCore.loggerName .info (some .shared) event).perform w' = _
    have hrender : (w'.layoutOf (some .shared)).render event = .error .longNumber := hline
    unfold Logger.handOver
    rw [perform_bind_ok (perform_get w'), hrender]
    rfl
  exact ⟨rfl, rfl, hnames, congrArg Prod.fst hout, congrArg (fun out => out.2.lines) hout⟩

end CoreCall
end ActivityLog
