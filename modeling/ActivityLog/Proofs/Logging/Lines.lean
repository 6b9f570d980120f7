import ActivityLog.Proofs.Logging.Event
import ActivityLog.Proofs.Logging.Pattern

/-!
# Events that become lines

Whether an event becomes a line is up to two things: its level has to pass, and it has to be possible to write it.

- `Value.Writable` says which values can be written, and `Event.Plain` which events can: a plain event can be finished,
  and however lines are written there is one of it (`Event.Plain.exists_render`).
- `World.WritesFrom`: lines of the loggers right below the name space are written from a level on, if that is the level
  of the shared configuration and nothing was set for single loggers.
- `Logger.emit_wrote` and `Logger.perform_emit_of_plain`: an event leaves at most one line behind, of a level that
  passes; a plain event of such a level leaves exactly one.
-/

namespace ActivityLog

open Act OrderedMap

/-! ## Properties of all values of a map -/

namespace OrderedMap

variable {β γ : Type} {p : β → Prop} {m : OrderedMap β}

/-- All values of a map have a property. -/
def Forall (p : β → Prop) (m : OrderedMap β) : Prop := ∀ e ∈ m.entries, p e.2

theorem forall_empty : (({} : OrderedMap β)).Forall p := fun _ he => nomatch he

theorem Forall.insert (h : m.Forall p) {v : β} (hv : p v) (name : String) : (m.insert name v).Forall p := by
  intro e he
  rcases mem_entries_insert he with rfl | he
  · exact hv
  · exact h e he

theorem Forall.erase (h : m.Forall p) (name : String) : (m.erase name).Forall p :=
  fun e he => h e (List.mem_filter.1 he).1

theorem Forall.insertAll (h : m.Forall p) {entries : List (String × β)} (hall : ∀ e ∈ entries, p e.2) :
    (m.insertAll entries).Forall p := by
  unfold OrderedMap.insertAll
  induction entries generalizing m with
  | nil => exact h
  | cons e rest ih =>
    obtain ⟨he, hrest⟩ := List.forall_mem_cons.1 hall
    exact ih (h.insert he e.1) hrest

theorem forall_map {f : γ → β} {m : OrderedMap γ} : (m.map f).Forall p ↔ m.Forall fun v => p (f v) := by
  unfold Forall OrderedMap.map
  exact List.forall_mem_map

theorem Forall.get? (h : m.Forall p) {name : String} {v : β} (hv : m.get? name = some v) : p v := by
  obtain ⟨before, after, hentries, -⟩ := List.lookup_eq_some_iff.1 hv
  exact h (name, v) (hentries ▸ List.mem_append_right _ List.mem_cons_self)

theorem Forall.mono {q : β → Prop} (h : m.Forall p) (hpq : ∀ v, p v → q v) : m.Forall q := fun e he => hpq _ (h e he)

variable {names : List String} {other : OrderedMap β}

/-- Some names have no value. -/
def Avoids (names : List String) (m : OrderedMap β) : Prop := ∀ name ∈ names, name ∉ m.keys

theorem Avoids.mono {fewer : List String} (h : m.Avoids names) (hfewer : fewer ⊆ names) : m.Avoids fewer :=
  fun name hname => h name (hfewer hname)

theorem Avoids.erase (h : m.Avoids names) (name : String) : (m.erase name).Avoids names := by
  intro other hother hmem
  rw [keys_erase] at hmem
  exact h other hother (List.mem_filter.1 hmem).1

theorem Avoids.insert (h : m.Avoids names) {name : String} (hname : name ∉ names) (v : β) :
    (m.insert name v).Avoids names := by
  intro other hother
  have hne : other ≠ name := fun heq => hname (heq ▸ hother)
  rw [← get?_eq_none_iff, get?_insert_of_ne _ _ hne, get?_eq_none_iff]
  exact h other hother

theorem Avoids.insertAll (h : m.Avoids names) (hother : other.Avoids names) :
    (m.insertAll other.entries).Avoids names := by
  intro name hname
  have hfree : other.entries.reverse.lookup name = none := by
    rw [← Option.not_isSome_iff_eq_none, lookup_isSome_iff, List.map_reverse, List.mem_reverse]
    exact hother name hname
  rw [← get?_eq_none_iff, get?_insertAll, hfree, Option.none_or, get?_eq_none_iff]
  exact h name hname

end OrderedMap

/-! ## Values that can be written -/

/-- A value that can be written: it holds no number with too many digits, and no record within itself. -/
structure Value.Writable (v : Value) : Prop where
  short : v.holdsLong = false
  flat : Json.isCircular v = false

/-- A value that can be written as it is by now. -/
def World.CanWrite (w : World) (v : Value) : Prop := (w.reveal v).Writable

theorem Value.writable_text (s : String) : (Value.text s).Writable := ⟨rfl, rfl⟩

theorem Value.Writable.written {v : Value} (h : v.Writable) : v.written = .ok v.display := by
  rw [Value.written, h.short, if_neg Bool.false_ne_true]

theorem World.canWrite_text (w : World) (s : String) : w.CanWrite (.text s) := by
  rw [CanWrite, w.reveal_text]
  exact Value.writable_text s

/-- Steps that all succeed give a list of results. -/
theorem exists_mapM_eq_ok {α β : Type} {f : α → Except Failure β} {as : List α} (h : ∀ a ∈ as, ∃ b, f a = .ok b) :
    ∃ bs, as.mapM f = .ok bs := by
  induction as with
  | nil => exact ⟨[], rfl⟩
  | cons a as ih =>
    obtain ⟨⟨b, hb⟩, hrest⟩ := List.forall_mem_cons.1 h
    obtain ⟨bs, hbs⟩ := ih hrest
    rw [List.mapM_cons, hb]
    show ∃ bs', (as.mapM f >>= fun bs => pure (b :: bs)) = .ok bs'
    rw [hbs]
    exact ⟨b :: bs, rfl⟩

theorem Json.haveCircular_of_writable {entries : List (String × Value)} (h : ∀ e ∈ entries, e.2.Writable) :
    haveCircular entries = false := by
  induction entries with
  | nil => rfl
  | cons e rest ih =>
    obtain ⟨he, hrest⟩ := List.forall_mem_cons.1 h
    rw [haveCircular, he.flat, ih hrest]
    rfl

theorem Value.entriesHoldLong_of_writable {entries : List (String × Value)} (h : ∀ e ∈ entries, e.2.Writable) :
    entriesHoldLong entries = false := by
  induction entries with
  | nil => rfl
  | cons e rest ih =>
    obtain ⟨he, hrest⟩ := List.forall_mem_cons.1 h
    rw [entriesHoldLong, he.short, ih hrest]
    rfl

namespace Console

theorem exists_showField {v : Value} (h : v.Writable) (name : String) : ∃ s, showField name v = .ok s := by
  have hvalue : ∃ s, showValue v = .ok s := by
    unfold showValue
    dsimp only
    split
    · exact ⟨_, rfl⟩
    · rw [h.short]
      exact ⟨_, rfl⟩
  obtain ⟨s, hs⟩ := hvalue
  exact ⟨_, by rw [showField, hs]; rfl⟩

/-- A line for the console needs a level that is a text, and neither a trace nor an exception. -/
theorem exists_render {event : Record} {level : String} (hvalues : event.Forall Value.Writable)
    (hlevel : event.get? "level" = some (.text level)) (hstack : event.get? "stack" = none)
    (hexception : event.get? "exception" = none) : ∃ text, render event = .ok text := by
  have hwritten {v : Value} (hv : v.Writable) (f : String → String) : ∃ s, v.written.map f = .ok s :=
    ⟨_, by rw [hv.written]; rfl⟩
  have hcolumns : ∀ c ∈ columns, ∀ v, event.get? c.1 = some v → ∃ s, c.2 v = .ok s := by
    simp only [columns, List.forall_mem_cons]
    refine ⟨?_, ?_, ?_, ?_, ?_, ?_, nofun⟩
    · exact fun v hv => exists_showField (hvalues.get? hv) ""
    · exact fun v hv => ⟨_, (hvalues.get? hv).written⟩
    · intro v hv
      rw [hlevel] at hv
      cases hv
      exact ⟨_, rfl⟩
    · exact fun v hv => hwritten (hvalues.get? hv) _
    · exact fun v hv => hwritten (hvalues.get? hv) _
    · exact fun v hv => hwritten (hvalues.get? hv) _
  have hfirst : ∃ first, (columns.mapM fun c => ((event.get? c.1).map c.2).getD (.ok "")) = .ok first := by
    refine exists_mapM_eq_ok fun c hc => ?_
    cases hv : event.get? c.1 with
    | none => exact ⟨"", rfl⟩
    | some v => exact hcolumns c hc v hv
  obtain ⟨first, hfirst⟩ := hfirst
  have hfields : ∃ fields, (((event.entries.filter fun e => !traces.contains e.1 &&
      (columns.lookup e.1).isNone).mergeSort fun a b => !Text.isBefore b.1 a.1).mapM fun e => showField e.1 e.2) =
        .ok fields := by
    refine exists_mapM_eq_ok fun e he => ?_
    exact exists_showField (hvalues e (List.mem_filter.1 (List.mem_mergeSort.1 he)).1) e.1
  obtain ⟨fields, hfields⟩ := hfields
  unfold render
  rw [OrderedMap.value, hstack, OrderedMap.value, hexception]
  dsimp only
  rw [hfields]
  show ∃ text, (columns.mapM (fun c => ((event.get? c.1).map c.2).getD (.ok "")) >>= fun first => _) = .ok text
  rw [hfirst]
  exact ⟨_, rfl⟩

end Console

theorem Pattern.exists_apply {event : Record} (hvalues : event.Forall Value.Writable) (pattern : String) :
    ∃ text, apply pattern event = .ok text := by
  have hpieces : ∃ texts, (pieces pattern).mapM (Piece.show event) = .ok texts := by
    refine exists_mapM_eq_ok fun piece _ => ?_
    cases piece with
    | fixed c => exact ⟨_, rfl⟩
    | placeholder name =>
      rw [show_placeholder, shown]
      split
      · exact ⟨"-", rfl⟩
      · exact ⟨"-", rfl⟩
      · next hv => exact ⟨_, (hvalues.get? hv).written⟩
  obtain ⟨texts, htexts⟩ := hpieces
  exact ⟨_, by rw [apply, htexts]; rfl⟩

/-! ## Plain events -/

/-- A layout whose pattern, if there is one, is a text. -/
def Layout.Textual (layout : Layout) : Prop := layout.pattern = .null ∨ ∃ pattern, layout.pattern = .text pattern

namespace Event

/-- Names that mean something to what finishes and writes events. -/
def reserved : List String := ["_record", "stack", "exception"]

/-- An event whose names mean nothing in particular, and whose values can be written as they are by now. -/
structure Plain (w : World) (event : Record) : Prop where
  names : event.Avoids reserved
  values : event.Forall w.CanWrite

variable {w : World} {event : Record} {logger : String} {level : Level}

theorem Plain.value_record (h : Plain w event) : event.value "_record" = .null := by
  rw [OrderedMap.value, get?_eq_none_iff.2 (h.names _ (by decide))]
  rfl

/-- An event that is made of plain parts is plain. -/
theorem Plain.assemble {bound fields : Record} {name : Value} (hbound : Plain w bound) (hfields : Plain w fields)
    (hname : w.CanWrite name) : Plain w (assemble bound fields name) := by
  have hnames := hbound.names.insertAll hfields.names
  have hvalues := hbound.values.insertAll hfields.values
  unfold Event.assemble
  dsimp only
  split
  · exact ⟨hnames, hvalues⟩
  · exact ⟨hnames.insert (by decide) name, hvalues.insert hname "event"⟩

/-- The values of a plain event can be written when it is finished, too, if the active correlation id can. -/
theorem Plain.values_finished (h : Plain w event) (hid : ∀ id, w.activeId = some id → w.CanWrite id)
    (logger : String) (level : Level) :
    (addContext w.activeId w.span (stamped logger level event)).Forall w.CanWrite := by
  have htext := w.canWrite_text
  have hdecoded (v : Value) (hv : w.CanWrite v) : w.CanWrite (decoded v) := by
    unfold decoded
    split
    · exact htext _
    · exact hv
  have hstamped : (stamped logger level event).Forall w.CanWrite := by
    show Forall _ (OrderedMap.map decoded _)
    refine forall_map.2 (Forall.mono ?_ hdecoded)
    exact ((((h.values.insert (htext _) _).insert (htext _) _).insert (htext _) _).erase _).erase _
  have hmissing {r : Record} (hr : r.Forall w.CanWrite) {v : Value} (hv : w.CanWrite v) (name : String) :
      (addMissing r name v).Forall w.CanWrite := by
    unfold addMissing
    split
    · exact hr
    · exact hr.insert hv name
  have hcorrelation : (addCorrelation w.activeId (stamped logger level event)).Forall w.CanWrite := by
    unfold addCorrelation
    split
    · next id hactive => exact hmissing hstamped (hid id hactive) _
    · exact hstamped
  unfold addContext addTrace
  split
  · split
    · exact hmissing (hmissing hcorrelation (htext _) _) (htext _) _
    · exact hcorrelation
  · exact hcorrelation

/-- **A plain event can be finished and written**, however lines are written. -/
theorem Plain.exists_render (h : Plain w event) (hid : ∀ id, w.activeId = some id → w.CanWrite id)
    (logger : String) (level : Level) {layout : Layout} (hlayout : layout.Textual) :
    ∃ finished text, complete logger level w.activeId w.span event = .ok finished ∧
      layout.render (finished.map w.reveal) = .ok text := by
  let finished := addContext w.activeId w.span (stamped logger level event)
  have hvalues : (finished.map w.reveal).Forall Value.Writable := forall_map.2 (h.values_finished hid logger level)
  have hlevel : (finished.map w.reveal).get? "level" = some (.text level.name) := by
    have hstamped : (stamped logger level event).get? "level" = some (.text level.name) := by
      rw [get?_stamped]
      rfl
    rw [get?_map, get?_addContext_of_some hstamped, Option.map_some, w.reveal_text]
  have hfree {name : String} (hname : name ∈ reserved) (hcontext : name ∉ contextNames)
      (hfixed : (fixed logger level).lookup name = none) : (finished.map w.reveal).get? name = none := by
    rw [get?_map, get?_addContext_of_not_mem hcontext, get?_stamped, hfixed,
      get?_eq_none_iff.2 (h.names name hname)]
    split <;> rfl
  refine ⟨finished, ?_⟩
  have hcomplete : complete logger level w.activeId w.span event = .ok finished := complete_eq h.value_record
  suffices hrender : ∃ text, layout.render (finished.map w.reveal) = .ok text from
    hrender.imp fun text htext => ⟨hcomplete, htext⟩
  unfold Layout.render
  split
  · next htruthy =>
    rcases hlayout with hnull | ⟨pattern, hpattern⟩
    · rw [hnull] at htruthy
      cases htruthy
    · rw [hpattern]
      exact Pattern.exists_apply hvalues pattern
  · split
    · exact Console.exists_render hvalues hlevel (hfree (by decide) (by decide) rfl) (hfree (by decide) (by decide) rfl)
    · exact ⟨_, Json.line_of_not_circular (Json.haveCircular_of_writable hvalues)
        (Value.entriesHoldLong_of_writable hvalues)⟩

end Event

/-! ## Loggers for which nothing was set -/

namespace LoggerTree

variable {tree : LoggerTree} {s : LoggingState} {logger : String}

/-- A logger right below the name space. -/
def Below (logger : String) : Prop := above logger = [logger, LoggingState.nameSpace, root]

/-- Nothing was set for a logger and those above it. -/
def Untuned (tree : LoggerTree) (logger : String) : Prop := ∀ name ∈ above logger, tree.get? name = none

theorem Below.ne_nameSpace (h : Below logger) : logger ≠ LoggingState.nameSpace := by
  rintro rfl
  have hlength := congrArg List.length h
  exact absurd hlength (by decide)

theorem Below.ne_root (h : Below logger) : logger ≠ root := by
  rintro rfl
  have hlength := congrArg List.length h
  exact absurd hlength (by decide)

/-- Where nothing was set the threshold of the shared configuration applies. -/
theorem Below.threshold_eq (h : Below logger) (hu : tree.Untuned logger) (hs : s.threshold ≠ 0) :
    tree.threshold s logger = s.threshold := by
  have hown : tree.ownThreshold s logger = 0 := by
    rw [ownThreshold, if_neg h.ne_nameSpace, options, hu logger (h ▸ List.mem_cons_self), Option.getD_none,
      if_neg h.ne_root]
  have hname : tree.ownThreshold s LoggingState.nameSpace = s.threshold := if_pos rfl
  rw [threshold, h, List.map_cons, List.map_cons, hown, hname]
  simp [hs]

/-- Where nothing was set a line has three stages, and the name space keeps it at the second. -/
theorem Below.stages_eq (h : Below logger) (hu : tree.Untuned logger) :
    tree.stages logger = [(false, []), (true, []), (false, [])] := by
  have hhandlers : ∀ name ∈ above logger, (tree.options name).handlers = [] := fun name hname => by
    rw [options, hu name hname, Option.getD_none]
  rw [h] at hhandlers
  simp only [List.forall_mem_cons] at hhandlers
  obtain ⟨hlogger, hname, hroot, -⟩ := hhandlers
  have hfirst : (logger == LoggingState.nameSpace) = false := beq_eq_false_iff_ne.2 h.ne_nameSpace
  have hlast : (root == LoggingState.nameSpace) = false := by decide
  rw [stages, h, List.map_cons, List.map_cons, List.map_cons, hfirst, hlast, hlogger, hname, hroot]
  rfl

end LoggerTree

/-! ## Lines from a level on -/

/-- The state with one more line. -/
def World.withLine (w : World) (line : Line) : World := { w with lines := w.lines ++ [line] }

/-- Lines of some loggers are written from a level on: it is that of the shared configuration, by which lines go, and
nothing was set for one of the loggers. -/
structure World.WritesFrom (loggers : List String) (l : Level) (w : World) : Prop where
  shared : ∃ s, w.logging = some s ∧ s.threshold = l.number ∧ s.layout.Textual
  own : w.ownLogging = none
  below : ∀ logger ∈ loggers, LoggerTree.Below logger ∧ w.loggers.Untuned logger

theorem Level.number_ne_zero (l : Level) : (l.number : Int) ≠ 0 := by cases l <;> decide

namespace Logger

/-- What an attempt to write leaves behind: nothing, or one line, of a level that passes. -/
inductive Wrote (logger : String) (l level : Level) (w : World) : Except Failure Unit × World → Prop
  | nothing (result : Except Failure Unit) : Wrote logger l level w (result, w)
  | line (text : String) (hpass : l.number ≤ level.number) :
      Wrote logger l level w (.ok (), w.withLine ⟨logger, level, text⟩)

/-- A successful attempt: one line if the level passes, and nothing otherwise. -/
def WroteOne (logger : String) (l level : Level) (w : World) (out : Except Failure Unit × World) : Prop :=
  if l.number ≤ level.number then ∃ text, out = (.ok (), w.withLine ⟨logger, level, text⟩) else out = (.ok (), w)

variable {w : World} {loggers : List String} {logger : String} {l level : Level} {chain : Option Chain}

/-- An attempt that needs something first, which may fail. -/
theorem Wrote.ofExcept {α : Type} {r : Except Failure α} {f : α → Act Unit}
    (h : ∀ a, r = .ok a → Wrote logger l level w ((f a).perform w)) :
    Wrote logger l level w ((Act.ofExcept r >>= f).perform w) := by
  cases r with
  | error e => exact .nothing (.error e)
  | ok a =>
    rw [perform_bind_ok (perform_ofExcept (.ok a) w)]
    exact h a rfl

/-- An event that is handed over leaves one line behind, if it can be written. -/
theorem perform_handOver (h : w.WritesFrom loggers l) (hlogger : logger ∈ loggers) (event : Record) :
    (handOver logger level chain event).perform w = match (w.layoutOf chain).render event with
      | .ok text => (.ok (), w.withLine ⟨logger, level, text⟩)
      | .error f => (.error f, w) := by
  obtain ⟨hbelow, huntuned⟩ := h.below logger hlogger
  unfold handOver
  rw [perform_bind_ok (perform_get w)]
  cases htext : (w.layoutOf chain).render event with
  | error f => rfl
  | ok text =>
    rw [perform_bind_ok (perform_ofExcept (.ok text) w), hbelow.stages_eq huntuned]
    rfl

theorem passes_iff (h : w.WritesFrom loggers l) (hlogger : logger ∈ loggers) {s : LoggingState}
    (hs : w.logging = some s) : w.loggers.passes s logger level = true ↔ l.number ≤ level.number := by
  obtain ⟨hbelow, huntuned⟩ := h.below logger hlogger
  obtain ⟨s', hs', hthreshold, -⟩ := h.shared
  obtain rfl : s = s' := Option.some.inj (hs.symm.trans hs')
  have hne : s.threshold ≠ 0 := hthreshold ▸ l.number_ne_zero
  rw [LoggerTree.passes, hbelow.threshold_eq huntuned hne, hthreshold, decide_eq_true_iff, Int.ofNat_le]

theorem lineLogging_eq (h : w.WritesFrom loggers l) {s : LoggingState} (hs : w.logging = some s) :
    w.lineLogging = some s := by
  rw [World.lineLogging, h.own, hs]
  rfl

/-- An event below the level leaves nothing behind. -/
theorem perform_emit_below (h : w.WritesFrom loggers l) (hlogger : logger ∈ loggers)
    (hlevel : ¬l.number ≤ level.number) (event : Record) :
    (emit logger level event chain).perform w = (.ok (), w) := by
  obtain ⟨s, hs, -, -⟩ := h.shared
  unfold emit
  rw [perform_bind_ok (perform_get w), lineLogging_eq h hs]
  dsimp only
  rw [if_neg fun hpass => hlevel ((passes_iff h hlogger hs).1 hpass)]
  rfl

/-- **An event leaves at most one line behind**, of a level that passes. -/
theorem emit_wrote (h : w.WritesFrom loggers l) (hlogger : logger ∈ loggers) (event : Record) :
    Wrote logger l level w ((emit logger level event chain).perform w) := by
  by_cases hlevel : l.number ≤ level.number
  · obtain ⟨s, hs, -, -⟩ := h.shared
    rw [perform_emit (lineLogging_eq h hs) ((passes_iff h hlogger hs).2 hlevel)]
    cases Event.complete logger level w.activeId w.span event with
    | error f => exact .nothing (.error f)
    | ok finished =>
      dsimp only
      rw [perform_handOver h hlogger]
      cases (w.layoutOf chain).render (finished.map w.reveal) with
      | error f => exact .nothing (.error f)
      | ok text => exact .line text hlevel
  · rw [perform_emit_below h hlogger hlevel]
    exact .nothing (.ok ())

/-- A pattern that is a text, or none, is what it was given as. -/
theorem textual_layoutOf (h : w.WritesFrom loggers l) (hchain : ∀ layout, chain ≠ some (.apart layout)) :
    (w.layoutOf chain).Textual := by
  obtain ⟨s, hs, -, htextual⟩ := h.shared
  have hsettled : (w.settled s.layout).Textual := by
    rcases htextual with hnull | ⟨pattern, hpattern⟩
    · exact .inl (by rw [World.settled, hnull, w.reveal_null])
    · exact .inr ⟨pattern, by rw [World.settled, hpattern, w.reveal_text]⟩
  have hshared : w.sharedLayout = w.settled s.layout := by
    rw [World.sharedLayout, hs]
    rfl
  have hlayout : w.layoutOf chain = w.sharedLayout := by
    have hnew : w.chain? = some .shared := by
      rw [World.chain?, h.own, hs]
      rfl
    rw [World.layoutOf, hnew]
    cases chain with
    | none => rfl
    | some c =>
      cases c with
      | shared => rfl
      | apart layout => exact absurd rfl (hchain layout)
  rw [hlayout, hshared]
  exact hsettled

/-- **A plain event of a level that passes leaves one line behind.** -/
theorem perform_emit_of_plain (h : w.WritesFrom loggers l) (hlogger : logger ∈ loggers)
    (hchain : ∀ layout, chain ≠ some (.apart layout)) {event : Record} (hplain : Event.Plain w event)
    (hid : ∀ id, w.activeId = some id → w.CanWrite id) :
    WroteOne logger l level w ((emit logger level event chain).perform w) := by
  unfold WroteOne
  split
  · next hlevel =>
    obtain ⟨s, hs, -, -⟩ := h.shared
    obtain ⟨finished, text, hcomplete, htext⟩ :=
      hplain.exists_render hid logger level (textual_layoutOf h hchain)
    rw [perform_emit (lineLogging_eq h hs) ((passes_iff h hlogger hs).2 hlevel), hcomplete]
    dsimp only
    rw [perform_handOver h hlogger, htext]
    exact ⟨text, rfl⟩
  · next hlevel => exact perform_emit_below h hlogger hlevel event

end Logger

end ActivityLog
