import ActivityLog.Proofs.Core.Levels

/-!
# Messages at any level

A context logs a message at a level that is given as a text. The logger is asked for what it has under the text in small
letters; where that cannot be called the message is logged at `info`. But a logger can be called for more than messages.

- `strayNames` are the names of all that it can be called for, those of levels apart.
- `reading`: what a message is logged as under any name. `exception` logs it at `error`; two more of the stray names
  take the message for a level, and the others log nothing.
- `logMessage_reads`: what comes of any message of any context, whatever the text of the level is.
- `logMessage_falls_back_iff`: messages at a level all have their line, at the level that is named, else at `info`, just
  if the text names nothing else that the logger can be called for. `not_logMessage_falls_back` is such a text.
-/

namespace ActivityLog

open Act OrderedMap

/-! ## Small letters -/

namespace Text

/-- No letter is the small one of a capital beyond ASCII and a capital of ASCII. -/
theorem lt_image_lowerTable : ∀ r ∈ lowerTable, 90 < r.image := by decide +kernel

theorem CaseRun.lt_apply {table : List CaseRun} (h : ∀ r ∈ table, 90 < r.image) {n : Nat} (hn : 90 < n) :
    90 < CaseRun.apply table n := by
  unfold CaseRun.apply
  cases hfound : table.findSome? (·.map? n) with
  | none => exact hn
  | some m =>
    obtain ⟨r, hr, hm⟩ := List.exists_of_findSome?_eq_some hfound
    unfold CaseRun.map? at hm
    split at hm
    · obtain rfl := Option.some.inj hm
      exact Nat.lt_add_right _ (h r hr)
    · cases hm

theorem isUpper_iff (c : Char) : c.isUpper = true ↔ 65 ≤ c.toNat ∧ c.toNat ≤ 90 :=
  decide_eq_true_iff.trans (and_congr UInt32.le_iff_toNat_le UInt32.le_iff_toNat_le)

theorem isUpper_ofNat {n : Nat} (hn : 90 < n) : (Char.ofNat n).isUpper = false := by
  by_cases hvalid : n.isValidChar
  · have hnat : (Char.ofNat n).toNat = n := by
      rw [Char.ofNat, dif_pos hvalid]
      rfl
    rw [← Bool.not_eq_true, isUpper_iff, hnat]
    omega
  · rw [Char.ofNat, dif_neg hvalid]
    decide

/-- A small letter is no capital of ASCII. -/
theorem isUpper_lowerChar (c : Char) : (lowerChar c).isUpper = false := by
  unfold lowerChar
  split
  · next h =>
    have hascii : ∀ n < 128, (Char.ofNat n).toLower.isUpper = false := by decide +kernel
    have hc := hascii c.toNat h
    rwa [Char.ofNat_toNat] at hc
  · next h => exact isUpper_ofNat (CaseRun.lt_apply lt_image_lowerTable (by omega))

theorem isUpper_of_mem_lowerFrom (before cs : List Char) : ∀ c ∈ lowerFrom before cs, c.isUpper = false := by
  induction cs generalizing before with
  | nil => exact nofun
  | cons first rest ih =>
    unfold lowerFrom
    dsimp only
    intro c hc
    rcases List.mem_append.1 hc with hc | hc
    · split at hc
      · split at hc <;> (obtain rfl := List.mem_singleton.1 hc; decide +kernel)
      split at hc
      · simp only [List.mem_cons, List.not_mem_nil, or_false] at hc
        rcases hc with rfl | rfl <;> decide +kernel
      · obtain rfl := List.mem_singleton.1 hc
        exact isUpper_lowerChar first
    · exact ih _ c hc

/-- A text in small letters has no capital of ASCII. -/
theorem any_isUpper_lower (s : String) : (lower s).toList.any Char.isUpper = false := by
  rw [List.any_eq_false]
  intro c hc
  rw [lower, String.toList_ofList] at hc
  rw [isUpper_of_mem_lowerFrom [] s.toList c hc]
  exact Bool.false_ne_true

end Text

/-! ## What a logger can be called for -/

/-- Neither a line nor a setting comes of such a method. -/
def LogMethod.Effect.isSilent : LogMethod.Effect → Bool
  | write _ | writeAt | writeAs | setLevel | changeHandlers _ => false
  | unbind _ | ask | child | handle | idle => true

namespace RequestContext

/-- What messages and their fields go to: the parameters of these names are given already. -/
def parameterNames : List String := ["self", "level", "message", "event", "method_name"]

/-- The names of the methods for messages at a level. -/
def levelNames : List (String × Level) :=
  Level.all.map (fun l => (l.name, l)) ++ [("warn", .warning), ("fatal", .critical)]

/-- The level that a name means, which is `info` for all other names. -/
def meant (name : String) : Level := (levelNames.lookup name).getD .info

/-- The names of what else a logger can be called for. Some names of operators stand for values that cannot be
called. -/
def strayNames : List String :=
  (LogMethod.byName.map Prod.fst ++ Attribute.routines "" ++ Attribute.operators "").filter fun name =>
    (levelNames.lookup name).isNone && (LoggerKind.full.properties.lookup name).isNone

/-- What a message is logged as under a name, if at all: a level, and the name of the event. -/
def reading (name : String) (message : Value) : Option (Level × Value) :=
  if name = "exception" then some (.error, message)
  else if name = "log" then (Level.ofNumber? message).map fun l => (l, .null)
  else if name = "_proxy_to_logger" then (message.text?.bind Level.ofMethod?).join.map fun l => (l, .null)
  else if name ∈ strayNames then none
  else some (meant name, message)

/-- The stray names under which a message is logged as something. -/
def loggingNames : List String := ["exception", "log", "_proxy_to_logger"]

/-- Whether something that a logger has can be called, and logs nothing. -/
def isSilent : Option Logger.Attribute → Bool
  | some (.method m) => m.effect.isSilent
  | some (.common _) => true
  | _ => false

variable {name : String} {l : Level}

/-- Whether a method can be called with a message and with any fields that avoid the names of parameters. -/
def takesMessage (m : LogMethod) : Bool :=
  m.signature.moreNames && decide (m.signature.required.length ≤ 2) && decide (2 ≤ m.signature.parameters.length) &&
    (m.signature.parameters.take 2).all parameterNames.contains

/-- A level is logged by the method of its name. -/
theorem attribute?_of_level (h : levelNames.lookup name = some l) :
    ∃ m, Logger.attribute? .full loggerName name = some (.method m) ∧ m.effect = .write l ∧ takesMessage m = true := by
  have hall : ∀ e ∈ levelNames, ∃ m, Logger.attribute? .full loggerName e.1 = some (.method m) ∧
      m.effect = .write e.2 ∧ takesMessage m = true := by
    unfold levelNames
    simp only [Level.all, List.map_cons, List.map_nil, List.cons_append, List.nil_append, List.forall_mem_cons]
    exact ⟨⟨_, rfl, rfl, rfl⟩, ⟨_, rfl, rfl, rfl⟩, ⟨_, rfl, rfl, rfl⟩, ⟨_, rfl, rfl, rfl⟩, ⟨_, rfl, rfl, rfl⟩,
      ⟨_, rfl, rfl, rfl⟩, ⟨_, rfl, rfl, rfl⟩, nofun⟩
  obtain ⟨before, after, hentries, -⟩ := List.lookup_eq_some_iff.1 h
  exact hall (name, l) (hentries ▸ List.mem_append_right _ List.mem_cons_self)

/-- What a stray name in small letters stands for can be called and logs nothing, a few names apart. -/
theorem isSilent_of_stray (h : name ∈ strayNames) (hsmall : name.toList.any Char.isUpper = false)
    (hname : name ∉ loggingNames) : isSilent (Logger.attribute? .full loggerName name) = true := by
  have hall : ∀ name ∈ strayNames, name.toList.any Char.isUpper = false → name ∉ loggingNames →
      isSilent (Logger.attribute? .full loggerName name) = true := by decide +kernel
  exact hall name h hsmall hname

/-- What names of nothing else stand for cannot be called. -/
theorem attribute?_of_not_stray (hlevel : levelNames.lookup name = none) (h : name ∉ strayNames) :
    Logger.attribute? .full loggerName name = none ∨
      ∃ type, Logger.attribute? .full loggerName name = some (.value type) := by
  have hmethod : LoggerKind.full.methods.lookup name = none := by
    rw [← Option.not_isSome_iff_eq_none, lookup_isSome_iff]
    intro hmem
    have hproperty : ∀ name ∈ LogMethod.byName.map Prod.fst,
        (LoggerKind.full.properties.lookup name).isNone = true := by
      decide +kernel
    refine h (List.mem_filter.2 ⟨List.mem_append_left _ (List.mem_append_left _ hmem), ?_⟩)
    rw [hlevel, hproperty name hmem]
    rfl
  unfold Logger.attribute?
  rw [hmethod]
  cases hproperty : LoggerKind.full.properties.lookup name with
  | some type => exact .inr ⟨type, rfl⟩
  | none =>
    have hcommon : (Attribute.routines "" ++ Attribute.operators "").contains name = false := by
      rw [← Bool.not_eq_true, List.contains_iff_mem]
      intro hmem
      refine h (List.mem_filter.2 ⟨?_, by rw [hlevel, hproperty]; rfl⟩)
      rw [List.append_assoc]
      exact List.mem_append_right _ hmem
    dsimp only
    split
    · exact .inr ⟨_, rfl⟩
    split
    · exact .inr ⟨_, rfl⟩
    · rw [hcommon]
      exact .inl rfl

end RequestContext

/-! ## Calls of a logger -/

/-- An event of the logger of messages as it is handed over, once it is finished. -/
def World.shownEvent (w : World) (l : Level) (event : Record) : Except Failure Record := do
  return (← Event.complete RequestContext.loggerName l w.activeId w.span event).map w.reveal

/-- What comes of an event of the logger of messages: its line, or the failure of making one. -/
def World.written (w : World) (l : Level) (event : Except Failure Record) : Except Failure Unit × World :=
  match event >>= (w.layoutOf none).render with
  | .ok text => (.ok (), w.withLine ⟨RequestContext.loggerName, l, text⟩)
  | .error f => (.error f, w)

theorem World.written_of_render {w : World} {l : Level} {event : Record} {text : String}
    (h : (w.layoutOf none).render event = .ok text) :
    w.written l (.ok event) = (.ok (), w.withLine ⟨RequestContext.loggerName, l, text⟩) := by
  have hbind : (Except.ok event >>= (w.layoutOf none).render) = .ok text := h
  rw [World.written, hbind]

namespace Logger

variable {w : World} {loggers : List String} {l : Level} {bound fields : Record} {method : LogMethod} {logger : String}

/-- A silent method leaves everything as it is, whether it fails or not. -/
theorem perform_call_of_silent (h : method.effect.isSilent = true) (bound : Record) (message : Value)
    (fields : Record) : ((call logger bound method message fields).perform w).2 = w := by
  unfold call
  cases method.signature.check method.qualified 2 fields.keys with
  | error f => rfl
  | ok u =>
    rw [perform_bind_ok (perform_ofExcept (.ok u) w), perform_bind_ok (perform_get w)]
    dsimp only
    have hrefused (p : Prop) [Decidable p] (f : Failure) :
        ((if p then throw f else pure () : Act Unit).perform w).2 = w := by
      split <;> rfl
    cases heffect : method.effect with
    | write | writeAt | writeAs | setLevel | changeHandlers =>
      rw [heffect] at h
      cases h
    | unbind strict =>
      dsimp only
      by_cases hhashable : (!message.isHashable) = true
      · rw [if_pos hhashable]
        rfl
      · rw [if_neg hhashable]
        exact hrefused _ _
    | ask =>
      dsimp only
      by_cases hhashable : (decide (w.loggerKind = .full) && !message.isHashable) = true
      · rw [if_pos hhashable]
        rfl
      · rw [if_neg hhashable]
        exact hrefused _ _
    | child =>
      dsimp only
      split <;> rfl
    | handle => rfl
    | idle => rfl

/-- **An event of the logger of messages** leaves its line behind, where lines of all levels are written. -/
theorem perform_emit_eq_written (h : w.WritesFrom loggers .debug) (hlogger : RequestContext.loggerName ∈ loggers)
    (event : Record) :
    (emit RequestContext.loggerName l event).perform w = w.written l (w.shownEvent l event) := by
  obtain ⟨s, hs, -, -⟩ := h.shared
  have hlevel : Level.debug.number ≤ l.number := by cases l <;> decide
  rw [perform_emit (lineLogging_eq h hs) ((passes_iff h hlogger hs).2 hlevel), World.shownEvent]
  cases Event.complete RequestContext.loggerName l w.activeId w.span event with
  | error f => rfl
  | ok finished => exact perform_handOver h hlogger _

end Logger

namespace RequestContext

variable {w : World} {loggers : List String} {l : Level} {bound fields : Record} {c : RequestContext} {message : Value}

/-- The event of values that are bound, fields and a name, as it is handed over. -/
def finished (w : World) (bound fields : Record) (l : Level) (name : Value) : Except Failure Record :=
  w.shownEvent l (Event.assemble bound fields name)

/-- The event of a message of a context. -/
def event (c : RequestContext) (w : World) (fields : Record) (l : Level) (name : Value) : Except Failure Record := do
  finished w (← c.bound) fields l name

theorem perform_write (h : w.WritesFrom loggers .debug) (hlogger : loggerName ∈ loggers)
    (hnames : fields.Avoids parameterNames) (name : Value) :
    (Logger.write loggerName bound l name fields).perform w = w.written l (finished w bound fields l name) := by
  have hrefuse : refuseParameters w.loggerKind.writerName ["method_name"] fields.keys = .ok () :=
    (refuseParameters_eq_ok_iff _ _ _).2 (List.forall_mem_singleton.2 (hnames _ (by decide)))
  unfold Logger.write
  rw [perform_bind_ok (perform_get w)]
  dsimp only
  rw [hrefuse, perform_bind_ok (perform_ofExcept (.ok ()) w)]
  exact Logger.perform_emit_eq_written h hlogger _

/-- Fields that avoid the names of parameters go with any method that takes a message. -/
theorem check_eq_ok (hnames : fields.Avoids parameterNames) {m : LogMethod} (hm : takesMessage m = true)
    (function : String) : m.signature.check function 2 fields.keys = .ok () := by
  unfold takesMessage at hm
  simp only [Bool.and_eq_true, decide_eq_true_eq, List.all_eq_true, List.contains_iff_mem] at hm
  obtain ⟨⟨⟨hmore, hrequired⟩, hparameters⟩, htake⟩ := hm
  exact (Signature.check_eq_ok_iff_of_le hmore hrequired hparameters _ _).2
    fun name hname => hnames name (htake name hname)

/-- Fields that avoid the names of parameters give the event no name. -/
theorem no_event (hnames : fields.Avoids parameterNames) :
    fields.value "event" = .null ∧ fields.erase "event" = fields := by
  have hevent : "event" ∉ fields.keys := hnames _ (by decide)
  have hentries : fields.entries.filter (fun e => !("event" == e.1)) = fields.entries := by
    rw [List.filter_eq_self]
    intro e he
    have hne : "event" ≠ e.1 := fun heq => hevent (heq ▸ List.mem_map_of_mem he)
    simpa using hne
  exact ⟨by rw [OrderedMap.value, get?_eq_none_iff.2 hevent, Option.getD_none], congrArg OrderedMap.mk hentries⟩

/-- What comes of a call that is logged as something, or as nothing: the line of the event, or nothing is left
behind. -/
def Reads (w : World) (event : Level → Value → Except Failure Record) (out : Except Failure Unit × World) :
    Option (Level × Value) → Prop
  | some (l, name) => out = w.written l (event l name)
  | none => out.2 = w

section Methods

variable {m : LogMethod}

theorem reads_of_write (h : w.WritesFrom loggers .debug) (hlogger : loggerName ∈ loggers)
    (hnames : fields.Avoids parameterNames) (heffect : m.effect = .write l) (hm : takesMessage m = true)
    (bound : Record) (message : Value) :
    Reads w (finished w bound fields) ((Logger.call loggerName bound m message fields).perform w)
      (some (l, message)) := by
  unfold Logger.call
  rw [check_eq_ok hnames hm, perform_bind_ok (perform_ofExcept (.ok ()) w), perform_bind_ok (perform_get w), heffect]
  exact perform_write h hlogger hnames message

/-- A method that looks its message up: one that is nowhere found is refused, and nothing is left behind. -/
def lookingUp {α : Type} (message : Value) (found : Option α) (log : α → Act Unit) : Act Unit := do
  if !message.isHashable then throw (.unhashable message)
  found.elim (throw (.fault .key message.shown)) log

theorem reads_of_lookingUp {α : Type} {event : Level → Value → Except Failure Record} {found : Option α}
    (hhashable : found.isSome = true → message.isHashable = true) {log : α → Act Unit}
    {read : α → Option (Level × Value)} (hlog : ∀ x, Reads w event ((log x).perform w) (read x)) :
    Reads w event ((lookingUp message found log).perform w) (found.bind read) := by
  cases found with
  | none =>
    show ((_ : Act Unit).perform w).2 = w
    unfold lookingUp
    cases message.isHashable <;> rfl
  | some x =>
    unfold lookingUp
    rw [hhashable rfl]
    exact hlog x

theorem isHashable_of_ofNumber? (h : (Level.ofNumber? message).isSome = true) : message.isHashable = true := by
  cases message <;> first
    | rfl
    | cases h

theorem isHashable_of_ofMethod? (h : (message.text?.bind Level.ofMethod?).isSome = true) :
    message.isHashable = true := by
  cases message <;> first
    | rfl
    | cases h

/-- A method that takes the message for the number of a level. -/
theorem reads_of_writeAt (h : w.WritesFrom loggers .debug) (hlogger : loggerName ∈ loggers)
    (hfull : w.loggerKind = .full) (hnames : fields.Avoids parameterNames) (heffect : m.effect = .writeAt)
    (hm : takesMessage m = true) (bound : Record) (message : Value) :
    Reads w (finished w bound fields) ((Logger.call loggerName bound m message fields).perform w)
      ((Level.ofNumber? message).map fun l => (l, .null)) := by
  obtain ⟨hvalue, herase⟩ := no_event hnames
  have hcall : (Logger.call loggerName bound m message fields).perform w =
      (lookingUp message (Level.ofNumber? message) fun l =>
        Logger.write loggerName bound l .null fields).perform w := by
    unfold Logger.call
    rw [check_eq_ok hnames hm, perform_bind_ok (perform_ofExcept (.ok ()) w), perform_bind_ok (perform_get w), heffect,
      hfull, hvalue, herase]
    cases Level.ofNumber? message <;> rfl
  rw [hcall, Option.map_eq_bind]
  exact reads_of_lookingUp isHashable_of_ofNumber? fun l => perform_write h hlogger hnames .null

/-- A method that takes the message for the name of a level. -/
theorem reads_of_writeAs (h : w.WritesFrom loggers .debug) (hlogger : loggerName ∈ loggers)
    (hnames : fields.Avoids parameterNames) (heffect : m.effect = .writeAs) (hm : takesMessage m = true)
    (bound : Record) (message : Value) :
    Reads w (finished w bound fields) ((Logger.call loggerName bound m message fields).perform w)
      ((message.text?.bind Level.ofMethod?).join.map fun l => (l, .null)) := by
  obtain ⟨hvalue, herase⟩ := no_event hnames
  have hcall : (Logger.call loggerName bound m message fields).perform w =
      (lookingUp message (message.text?.bind Level.ofMethod?) fun level =>
        level.forM fun l => Logger.emit loggerName l (Event.assemble bound fields .null)).perform w := by
    unfold Logger.call
    rw [check_eq_ok hnames hm, perform_bind_ok (perform_ofExcept (.ok ()) w), heffect, hvalue, herase]
    refine (perform_bind_ok (perform_get w) _).trans ?_
    cases message.text?.bind Level.ofMethod? <;> rfl
  have hread : (message.text?.bind Level.ofMethod?).join.map (fun l => (l, Value.null)) =
      (message.text?.bind Level.ofMethod?).bind fun level => level.map fun l => (l, Value.null) := by
    cases message.text?.bind Level.ofMethod? <;> rfl
  rw [hcall, hread]
  refine reads_of_lookingUp isHashable_of_ofMethod? fun level => ?_
  cases level with
  | none => rfl
  | some l => exact Logger.perform_emit_eq_written h hlogger _

end Methods

/-! ## Messages -/

/-- What a logger is called for under a name, which is `info` where it has nothing to be called. -/
def called (bound : Record) (name : String) (message : Value) (fields : Record) : Act Unit :=
  match Logger.attribute? .full loggerName name with
  | some (.method m) => Logger.call loggerName bound m message fields
  | some (.common name) => Act.ofExcept (Logger.callCommon .full loggerName name message fields.keys)
  | _ => Logger.call loggerName bound (.ofLevel .info) message fields

section Called

variable {name : String}

theorem called_of_method {m : LogMethod} (hm : Logger.attribute? .full loggerName name = some (.method m))
    (bound : Record) (message : Value) (fields : Record) :
    called bound name message fields = Logger.call loggerName bound m message fields := by
  unfold called
  rw [hm]

/-- Where nothing is logged nothing is left behind. -/
theorem reads_of_silent (h : isSilent (Logger.attribute? .full loggerName name) = true)
    (event : Level → Value → Except Failure Record) (bound : Record) (message : Value) (fields : Record) :
    Reads w event ((called bound name message fields).perform w) none := by
  unfold called Reads
  cases hattribute : Logger.attribute? .full loggerName name with
  | none =>
    rw [hattribute] at h
    cases h
  | some a =>
    rw [hattribute] at h
    cases a with
    | method m => exact Logger.perform_call_of_silent h bound message fields
    | common name => exact congrArg Prod.snd (perform_ofExcept _ w)
    | value type => cases h

/-- A name that stands for nothing else means a level. -/
theorem reads_of_not_stray (h : w.WritesFrom loggers .debug) (hlogger : loggerName ∈ loggers)
    (hnames : fields.Avoids parameterNames) (hname : name ∉ strayNames) (bound : Record) (message : Value) :
    Reads w (finished w bound fields) ((called bound name message fields).perform w) (some (meant name, message)) := by
  unfold meant
  cases hlevel : levelNames.lookup name with
  | some l =>
    obtain ⟨m, hm, heffect, htakes⟩ := attribute?_of_level hlevel
    rw [called_of_method hm]
    exact reads_of_write h hlogger hnames heffect htakes bound message
  | none =>
    have hcalled : called bound name message fields = Logger.call loggerName bound (.ofLevel .info) message fields := by
      unfold called
      rcases attribute?_of_not_stray hlevel hname with hnone | ⟨type, hvalue⟩
      · rw [hnone]
      · rw [hvalue]
    have heffect : (LogMethod.ofLevel .info).effect = .write .info := rfl
    rw [hcalled]
    exact reads_of_write h hlogger hnames heffect rfl bound message

/-- **What a call under a name is logged as.** -/
theorem reads_called (h : w.WritesFrom loggers .debug) (hlogger : loggerName ∈ loggers)
    (hfull : w.loggerKind = .full) (hnames : fields.Avoids parameterNames)
    (hsmall : name.toList.any Char.isUpper = false) (bound : Record) (message : Value) :
    Reads w (finished w bound fields) ((called bound name message fields).perform w) (reading name message) := by
  unfold reading
  by_cases hexception : name = "exception"
  · obtain ⟨m, hm, heffect, htakes⟩ : ∃ m, Logger.attribute? .full loggerName "exception" = some (.method m) ∧
        m.effect = .write .error ∧ takesMessage m = true := ⟨_, rfl, rfl, rfl⟩
    rw [if_pos hexception, hexception, called_of_method hm]
    exact reads_of_write h hlogger hnames heffect htakes bound message
  rw [if_neg hexception]
  by_cases hlog : name = "log"
  · obtain ⟨m, hm, heffect, htakes⟩ : ∃ m, Logger.attribute? .full loggerName "log" = some (.method m) ∧
        m.effect = .writeAt ∧ takesMessage m = true := ⟨_, rfl, rfl, rfl⟩
    rw [if_pos hlog, hlog, called_of_method hm]
    exact reads_of_writeAt h hlogger hfull hnames heffect htakes bound message
  rw [if_neg hlog]
  by_cases hproxy : name = "_proxy_to_logger"
  · obtain ⟨m, hm, heffect, htakes⟩ : ∃ m, Logger.attribute? .full loggerName "_proxy_to_logger" = some (.method m) ∧
        m.effect = .writeAs ∧ takesMessage m = true := ⟨_, rfl, rfl, rfl⟩
    rw [if_pos hproxy, hproxy, called_of_method hm]
    exact reads_of_writeAs h hlogger hnames heffect htakes bound message
  rw [if_neg hproxy]
  by_cases hstray : name ∈ strayNames
  · rw [if_pos hstray]
    have hothers : name ∉ loggingNames := by simp [loggingNames, hexception, hlog, hproxy]
    exact reads_of_silent (isSilent_of_stray hstray hsmall hothers) _ bound message fields
  · rw [if_neg hstray]
    exact reads_of_not_stray h hlogger hnames hstray bound message

end Called

/-- **What comes of a message**, whatever its level is: the line of what it is logged as, or the failure of making one.
A message that is not logged leaves nothing behind. -/
theorem logMessage_reads (h : w.WritesFrom loggers .debug) (hlogger : loggerName ∈ loggers)
    (hnames : fields.Avoids parameterNames) (c : RequestContext) (level : String) (message : Value) :
    Reads w (c.event w fields) ((c.logMessage (.text level) message fields).perform w)
      (reading (Text.lower level) message) := by
  have hfull : w.loggerKind = .full := by
    obtain ⟨s, hs, -, -⟩ := h.shared
    rw [World.loggerKind, Logger.lineLogging_eq h hs]
    rfl
  have hrefuse : refuseParameters "RequestContext.log_message" ["self", "level", "message"] fields.keys = .ok () :=
    (refuseParameters_eq_ok_iff _ _ _).2 fun name hname =>
      hnames name (List.mem_append_left ["event", "method_name"] hname)
  unfold logMessage
  rw [hrefuse, perform_bind_ok (perform_ofExcept (.ok ()) w)]
  cases hbound : c.bound with
  | error f =>
    rw [perform_bind_error (perform_ofExcept (.error f) w)]
    unfold Reads event
    rw [hbound]
    split <;> rfl
  | ok bound =>
    have hname : methodName (.text level) = .ok (Text.lower level) := rfl
    have hevent : c.event w fields = finished w bound fields := by
      funext l name
      rw [event, hbound]
      rfl
    rw [perform_bind_ok (perform_ofExcept (.ok bound) w), hname,
      perform_bind_ok (perform_ofExcept (.ok (Text.lower level)) w), perform_bind_ok (perform_get w), hfull, hevent]
    exact reads_called h hlogger hfull hnames (Text.any_isUpper_lower level) bound message

/-! ## Messages that have their line -/

/-- A message has its line at a level: nothing fails, and there is one line more, of that level. It shows the event of
the message, with the context's correlation id. -/
def Logged (c : RequestContext) (w : World) (l : Level) (message : Value) (fields : Record)
    (out : Except Failure Unit × World) : Prop :=
  ∃ event text, c.event w fields l message = .ok event ∧
    event.get? "correlation_id" = some (w.reveal (Event.decoded c.correlationId)) ∧
    (w.layoutOf none).render event = .ok text ∧ out = (.ok (), w.withLine ⟨loggerName, l, text⟩)

/-- What a context binds has its correlation id. -/
theorem get?_correlationId_of_bound (h : c.bound = .ok bound) : bound.get? "correlation_id" = some c.correlationId := by
  unfold RequestContext.bound at h
  split at h
  · cases h
  · next hfree =>
    split at h
    · cases h
    · obtain rfl := Except.ok.inj h
      have hnone : c.attributes.entries.reverse.lookup "correlation_id" = none := by
        rw [← Option.not_isSome_iff_eq_none, lookup_isSome_iff, List.map_reverse, List.mem_reverse]
        exact fun hmem => hfree (contains_iff.2 hmem)
      rw [get?_insertAll, hnone]
      rfl

/-- The event of a message has the context's correlation id, unless a field has its name. -/
theorem get?_correlationId_of_event {event : Record} (hfree : "correlation_id" ∉ fields.keys)
    (h : c.event w fields l message = .ok event) :
    event.get? "correlation_id" = some (w.reveal (Event.decoded c.correlationId)) := by
  obtain ⟨bound, hbound, h⟩ := of_bind_eq_ok h
  obtain ⟨finished, hcomplete, hevent⟩ := of_bind_eq_ok h
  obtain rfl := Except.ok.inj hevent
  have hnone : fields.entries.reverse.lookup "correlation_id" = none := by
    rw [← Option.not_isSome_iff_eq_none, lookup_isSome_iff, List.map_reverse, List.mem_reverse]
    exact hfree
  have hassembled : (Event.assemble bound fields message).get? "correlation_id" = some c.correlationId := by
    have hall : (bound.insertAll fields.entries).get? "correlation_id" = some c.correlationId := by
      rw [get?_insertAll, hnone, Option.none_or, get?_correlationId_of_bound hbound]
    unfold Event.assemble
    dsimp only
    split
    · exact hall
    · rw [get?_insert_of_ne _ _ (by decide), hall]
  rw [get?_map, Event.get?_correlationId_of_complete hcomplete, hassembled]
  rfl

/-- **A plain message has its line** at any level. -/
theorem logged_of_plain (h : w.WritesFrom loggers .debug) (hid : ∀ id, w.activeId = some id → w.CanWrite id)
    (hc : c.Plain w) (hnames : fields.Avoids Event.reserved) (hfree : "correlation_id" ∉ fields.keys)
    (hmessage : w.CanWrite message) (hvalues : fields.Forall w.CanWrite) (l : Level) :
    c.Logged w l message fields (w.written l (c.event w fields l message)) := by
  have hchain (layout : Layout) : (none : Option Chain) ≠ some (.apart layout) := nofun
  obtain ⟨bound, hbound, hplain⟩ := hc.bound
  obtain ⟨finished, text, hcomplete, htext⟩ :=
    (hplain.assemble ⟨hnames, hvalues⟩ hmessage).exists_render hid loggerName l (Logger.textual_layoutOf h hchain)
  have hevent : c.event w fields l message = .ok (finished.map w.reveal) := by
    rw [event, hbound]
    show w.shownEvent l _ = _
    rw [World.shownEvent, hcomplete]
    rfl
  refine ⟨finished.map w.reveal, text, hevent, get?_correlationId_of_event hfree hevent, htext, ?_⟩
  rw [hevent]
  exact World.written_of_render htext

/-- A line that an event leaves behind is of the event's level. -/
theorem level_of_written {event : Except Failure Record} {l' : Level} {text : String}
    (h : w.written l event = (.ok (), w.withLine ⟨loggerName, l', text⟩)) : l = l' := by
  unfold World.written at h
  split at h
  · have hlines : w.lines ++ [(⟨loggerName, l, _⟩ : Line)] = w.lines ++ [⟨loggerName, l', text⟩] :=
      congrArg (fun out => out.2.lines) h
    have hline := (List.cons.inj (List.append_cancel_left hlines)).1
    exact congrArg Line.level hline
  · cases congrArg Prod.fst h

/-- An empty message at a stray name is logged as nothing, or as an error. -/
theorem reading_of_stray {name : String} (h : name ∈ strayNames) :
    reading name (.text "") = none ∨ ∃ message, reading name (.text "") = some (.error, message) := by
  unfold reading
  split
  · exact .inr ⟨_, rfl⟩
  split
  · exact .inl rfl
  split <;> exact .inl rfl

theorem meant_of_stray {name : String} (h : name ∈ strayNames) : meant name = .info := by
  obtain ⟨-, hboth⟩ := List.mem_filter.1 h
  rw [meant, Option.isNone_iff_eq_none.1 (Bool.and_eq_true_iff.1 hboth).1]
  rfl

/-- **Messages fall back to `info`.** Lines of all levels are written, and the active correlation id can be. Whatever
text a level is given as,

- each message of each context, whose fields avoid the names of parameters, has the line of what it is logged as under
  the text in small letters, or fails to be written as that; and nothing is left behind if it is logged as nothing;
- all messages of that level which can be written at all have one line each, with the context's correlation id, at the
  level that the text names, else at `info`, exactly if the text names nothing else that a logger can be called for. -/
theorem logMessage_falls_back_iff (h : w.WritesFrom loggers .debug) (hlogger : loggerName ∈ loggers)
    (hid : ∀ id, w.activeId = some id → w.CanWrite id) (level : String) :
    let name := Text.lower level
    (∀ (c : RequestContext) (message : Value) (fields : Record), fields.Avoids parameterNames →
      Reads w (c.event w fields) ((c.logMessage (.text level) message fields).perform w) (reading name message)) ∧
    ((∀ (c : RequestContext) (message : Value) (fields : Record), c.Plain w → w.CanWrite message →
        fields.Avoids fieldNames → "correlation_id" ∉ fields.keys → fields.Forall w.CanWrite →
        c.Logged w (meant name) message fields ((c.logMessage (.text level) message fields).perform w)) ↔
      name ∉ strayNames) := by
  intro name
  have hreads (c : RequestContext) (message : Value) (fields : Record) (hnames : fields.Avoids parameterNames) :=
    logMessage_reads h hlogger hnames c level message
  refine ⟨hreads, fun hall hstray => ?_, fun hstray c message fields hc hmessage hnames hfree hvalues => ?_⟩
  · let c : RequestContext := { correlationId := .text "" }
    have hc : c.Plain w := ⟨fun _ _ => List.not_mem_nil, w.canWrite_text "", forall_empty⟩
    obtain ⟨event, text, -, -, -, hout⟩ := hall c (.text "") {} hc (w.canWrite_text "") (fun _ _ => List.not_mem_nil)
      List.not_mem_nil forall_empty
    have hread := hreads c (.text "") {} fun _ _ => List.not_mem_nil
    rw [hout, meant_of_stray hstray] at hread
    rcases reading_of_stray hstray with hnone | ⟨message, herror⟩
    · rw [hnone] at hread
      have hlines : w.lines ++ [_] = w.lines := congrArg World.lines hread
      exact absurd (List.self_eq_append_right.1 hlines.symm) (List.cons_ne_nil _ _)
    · rw [herror] at hread
      cases level_of_written hread.symm
  · have hread := hreads c message fields (hnames.mono (List.subset_append_left parameterNames _))
    have hlevel : reading name message = some (meant name, message) := by
      have hexception : name ≠ "exception" := fun heq => hstray (heq ▸ by decide +kernel)
      have hlog : name ≠ "log" := fun heq => hstray (heq ▸ by decide +kernel)
      have hproxy : name ≠ "_proxy_to_logger" := fun heq => hstray (heq ▸ by decide +kernel)
      rw [reading, if_neg hexception, if_neg hlog, if_neg hproxy, if_neg hstray]
    rw [hlevel] at hread
    rw [show (c.logMessage (.text level) message fields).perform w = _ from hread]
    exact logged_of_plain h hid hc (hnames.mono (List.subset_append_right parameterNames _)) hfree hmessage hvalues _

/-- Lines of all levels are written. -/
def verbose : World := { logging := some ⟨"DEBUG", LoggingState.defaultLayout, Level.debug.number⟩ }

theorem writesFrom_verbose : verbose.WritesFrom lineLoggers .debug :=
  ⟨⟨_, rfl, rfl, .inl rfl⟩, rfl, fun logger hlogger => ⟨LoggerTree.below_of_mem logger hlogger, fun _ _ => rfl⟩⟩

/-- A context without attributes. -/
def bare : RequestContext := { correlationId := .text "a" }

theorem plain_bare : bare.Plain verbose := ⟨fun _ _ => List.not_mem_nil, verbose.canWrite_text "a", forall_empty⟩

/-- A message at a level that is none has its line at `info`. -/
theorem logMessage_falls_back_iff_chatty :
    verbose.WritesFrom lineLoggers .debug ∧ loggerName ∈ lineLoggers ∧
    (∀ id, verbose.activeId = some id → verbose.CanWrite id) ∧ Text.lower "Chatty" ∉ strayNames ∧
    ∃ text, (bare.logMessage (.text "Chatty") (.text "hello") {}).perform verbose =
      (.ok (), verbose.withLine ⟨"netlog.message", .info, text⟩) := by
  have hlogger : loggerName ∈ lineLoggers := List.mem_cons_of_mem _ List.mem_cons_self
  have hid : ∀ id, verbose.activeId = some id → verbose.CanWrite id := nofun
  have hstray : Text.lower "Chatty" ∉ strayNames := by decide +kernel
  have hinfo : meant (Text.lower "Chatty") = .info := by decide +kernel
  obtain ⟨-, hlogged⟩ := logMessage_falls_back_iff writesFrom_verbose hlogger hid "Chatty"
  obtain ⟨event, text, -, -, -, hout⟩ := hlogged.2 hstray bare (.text "hello") {} plain_bare
    (verbose.canWrite_text "hello") (fun _ _ => List.not_mem_nil) List.not_mem_nil forall_empty
  rw [hinfo] at hout
  exact ⟨writesFrom_verbose, hlogger, hid, hstray, text, hout⟩

/-- **A level that is none may not count as `info`**: at `bind` the message is refused, and has no line. -/
theorem not_logMessage_falls_back :
    let out := (bare.logMessage (.text "bind") (.text "hi") {}).perform verbose
    verbose.WritesFrom lineLoggers .debug ∧ loggerName ∈ lineLoggers ∧ bare.Plain verbose ∧
    meant (Text.lower "bind") = .info ∧
    out.1 = .error (.fault .type "BoundLogger.bind() takes 1 positional argument but 2 were given") ∧
    out.2.lines = [] := by
  intro out
  have hinfo : meant (Text.lower "bind") = .info := by decide +kernel
  exact ⟨writesFrom_verbose, List.mem_cons_of_mem _ List.mem_cons_self, plain_bare, hinfo, by rfl, by rfl⟩

end RequestContext

end ActivityLog
