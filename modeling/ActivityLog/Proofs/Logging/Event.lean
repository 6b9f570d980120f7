import ActivityLog.Logging.Logger
import ActivityLog.Proofs.Act
import ActivityLog.Proofs.Record

/-!
# What an event holds

On its way to a line an event gets what every line carries, and loses the handles on exceptions and stacks. Plain data
(`Value.isJson`) is neither decoded nor revealed on that way.

- `Event.complete_eq` and `Event.get?_stamped`: what a finished event holds under each name. Correlation and trace are
  only added where the name is free (`Event.get?_addContext_of_some`, `Event.get?_addContext_of_not_mem`), so the
  correlation id is the active one just for events that come without (`Event.get?_correlationId_of_complete`).
- `Logger.perform_emit`: an event that passes is finished and then handed over once (`Logger.handOver`), and
  `Logger.lines_deliver` counts the lines that come of it.
-/

namespace ActivityLog

theorem OrderedMap.get?_map {β γ : Type} (f : β → γ) (m : OrderedMap β) (name : String) :
    (m.map f).get? name = (m.get? name).map f := by
  obtain ⟨entries⟩ := m
  unfold OrderedMap.map OrderedMap.get?
  induction entries with
  | nil => rfl
  | cons e rest ih =>
    rw [List.map_cons, lookup_cons_ite, ih, lookup_cons_ite, apply_ite (Option.map f)]
    rfl

/-! ## Plain data -/

namespace Value

mutual

/-- Data that JSON can say. -/
def isJson : Value → Bool
  | .null | .bool _ | .int _ | .float _ | .text _ => true
  | .list items => isJsonItems items
  | .dict entries => isJsonEntries entries
  | _ => false

/-- Items that JSON can say. -/
def isJsonItems : List Value → Bool
  | [] => true
  | v :: rest => isJson v && isJsonItems rest

/-- Entries that JSON can say. -/
def isJsonEntries : List (String × Value) → Bool
  | [] => true
  | (_, v) :: rest => isJson v && isJsonEntries rest

end

section References

variable (f : Shared → Bool → Value)

mutual

/-- Plain data holds no references. -/
theorem mapShared_of_isJson : ∀ v : Value, v.isJson = true → v.mapShared f = v
  | .null, _ | .bool _, _ | .int _, _ | .float _, _ | .text _, _ => by simp only [mapShared]
  | .list items, h => by
    rw [isJson] at h
    rw [mapShared, mapSharedItems_of_isJson items h]
  | .dict entries, h => by
    rw [isJson] at h
    rw [mapShared, mapSharedEntries_of_isJson entries h]

theorem mapSharedItems_of_isJson : ∀ items : List Value, isJsonItems items = true → mapSharedItems f items = items
  | [], _ => by rw [mapSharedItems]
  | v :: rest, h => by
    rw [isJsonItems, Bool.and_eq_true] at h
    rw [mapSharedItems, mapShared_of_isJson v h.1, mapSharedItems_of_isJson rest h.2]

theorem mapSharedEntries_of_isJson : ∀ entries : List (String × Value), isJsonEntries entries = true →
    mapSharedEntries f entries = entries
  | [], _ => by rw [mapSharedEntries]
  | (name, v) :: rest, h => by
    rw [isJsonEntries, Bool.and_eq_true] at h
    rw [mapSharedEntries, mapShared_of_isJson v h.1, mapSharedEntries_of_isJson rest h.2]

end

end References

/-- Items of plain data are plain data. -/
theorem isJson_of_mem {items : List Value} (h : isJsonItems items = true) {v : Value} (hv : v ∈ items) :
    v.isJson = true := by
  induction items with
  | nil => cases hv
  | cons first rest ih =>
    rw [isJsonItems, Bool.and_eq_true] at h
    rcases List.mem_cons.1 hv with rfl | hv
    · exact h.1
    · exact ih h.2 hv

/-- So are entries. -/
theorem isJson_of_lookup {entries : List (String × Value)} {name : String} {v : Value}
    (h : (Value.dict entries).isJson = true) (hv : entries.lookup name = some v) : v.isJson = true := by
  rw [isJson] at h
  induction entries with
  | nil => cases hv
  | cons e rest ih =>
    obtain ⟨key, first⟩ := e
    rw [isJsonEntries, Bool.and_eq_true] at h
    rw [OrderedMap.lookup_cons_ite] at hv
    split at hv
    · exact Option.some.inj hv ▸ h.1
    · exact ih h.2 hv

end Value

/-! ## What references stand for -/

theorem World.reveal_of_isJson (w : World) {v : Value} (h : v.isJson = true) : w.reveal v = v :=
  Value.mapShared_of_isJson _ v h

/-- What references stand for depends on hosts and logs only. -/
theorem World.reveal_congr {w w' : World} (hosts : w'.hosts = w.hosts) (lifecycles : w'.lifecycles = w.lifecycles) :
    w'.reveal = w.reveal := by
  have hcontent : w'.content = w.content := by
    funext thing
    cases thing <;> simp only [World.content, World.recordOf, World.hostOf, hosts, lifecycles]
  have hfollow (fuel : Nat) : w'.follow fuel = w.follow fuel := by
    induction fuel with
    | zero => rfl
    | succ fuel ih =>
      funext path thing readOnly
      simp only [World.follow, hcontent, ih]
  funext v
  simp only [World.reveal, World.depth, hosts, lifecycles, hfollow]

theorem World.reveal_text (w : World) (s : String) : w.reveal (.text s) = .text s := w.reveal_of_isJson rfl

theorem World.reveal_null (w : World) : w.reveal .null = .null := w.reveal_of_isJson rfl

/-! ## Finished events -/

namespace Event

variable {event : Record} {name other : String} {v u : Value} {logger : String} {level : Level} {active : Option Value}
  {span : Option Span}

/-- A value as it is decoded. -/
def decoded : Value → Value
  | .bytes b => .text (Utf8.decodeLossy b)
  | v => v

/-- What every line carries. -/
def fixed (logger : String) (level : Level) : List (String × Value) :=
  [("logger", .text logger), ("level", .text level.name), ("timestamp", .text timestamp)]

/-- The names of the handles on exceptions and stacks, which no line carries. -/
def removed : List String := ["stack_info", "exc_info"]

/-- The names under which correlation and trace are added. -/
def contextNames : List String := ["correlation_id", "trace_id", "span_id"]

/-- An event with what every line carries, without the handles. -/
def stamped (logger : String) (level : Level) (event : Record) : Record :=
  decodeBytes (((((event.insert "logger" (.text logger)).insert "level" (.text level.name)).insert "timestamp"
    (.text timestamp)).erase "stack_info").erase "exc_info")

/-- An event with correlation and trace. -/
def addContext (active : Option Value) (span : Option Span) (event : Record) : Record :=
  addTrace span (addCorrelation active event)

/-- An event that wraps no other entry is finished. -/
theorem complete_eq (h : event.value "_record" = .null) :
    complete logger level active span event = .ok (addContext active span (stamped logger level event)) := by
  unfold complete addLogger
  rw [h]
  rfl

/-- What every line carries goes before what the event held. -/
theorem get?_stamped (name : String) : (stamped logger level event).get? name =
    (if name ∈ removed then none else ((fixed logger level).lookup name).or (event.get? name)).map decoded := by
  have hlookup : ((fixed logger level).lookup name).or (event.get? name) =
      if name = "timestamp" then some (.text timestamp) else if name = "level" then some (.text level.name)
      else if name = "logger" then some (.text logger) else event.get? name := by
    simp only [fixed, OrderedMap.lookup_cons_ite, List.lookup_nil]
    by_cases ht : name = "timestamp"
    · simp [ht]
    · by_cases hl : name = "level"
      · simp [hl]
      · by_cases hg : name = "logger" <;> simp [ht, hl, hg]
  rw [hlookup]
  show OrderedMap.get? (OrderedMap.map decoded _) name = _
  rw [OrderedMap.get?_map, OrderedMap.get?_erase, OrderedMap.get?_erase, OrderedMap.get?_insert, OrderedMap.get?_insert,
    OrderedMap.get?_insert]
  by_cases he : name = "exc_info"
  · simp [he, removed]
  · by_cases hs : name = "stack_info" <;> simp [he, hs, removed]

theorem get?_addMissing_of_ne (h : other ≠ name) : (addMissing event name v).get? other = event.get? other := by
  unfold addMissing
  split
  · rfl
  · exact OrderedMap.get?_insert_of_ne _ _ h

theorem get?_addMissing_of_some (h : event.get? other = some u) : (addMissing event name v).get? other = some u := by
  unfold addMissing
  split
  · exact h
  · next hfree =>
    rw [OrderedMap.get?_insert_of_ne, h]
    rintro rfl
    rw [OrderedMap.contains, h] at hfree
    exact hfree rfl

/-- Correlation and trace go behind what the event holds. -/
theorem get?_addContext_of_some (h : event.get? other = some u) :
    (addContext active span event).get? other = some u := by
  have hcorrelation : (addCorrelation active event).get? other = some u := by
    unfold addCorrelation
    split
    · exact get?_addMissing_of_some h
    · exact h
  unfold addContext addTrace
  split
  · split
    · exact get?_addMissing_of_some (get?_addMissing_of_some hcorrelation)
    · exact hcorrelation
  · exact hcorrelation

theorem get?_addContext_of_not_mem (h : other ∉ contextNames) :
    (addContext active span event).get? other = event.get? other := by
  have hne (name : String) (hn : name ∈ contextNames) : other ≠ name := by
    rintro rfl
    exact h hn
  have hcorrelation : (addCorrelation active event).get? other = event.get? other := by
    unfold addCorrelation
    split
    · exact get?_addMissing_of_ne (hne _ (by decide))
    · rfl
  unfold addContext addTrace
  split
  · split
    · rw [get?_addMissing_of_ne (hne _ (by decide)), get?_addMissing_of_ne (hne _ (by decide)), hcorrelation]
    · exact hcorrelation
  · exact hcorrelation

theorem get?_addLogger_of_ne {added : Record} (h : addLogger logger event = .ok added) (hname : other ≠ "logger") :
    added.get? other = event.get? other := by
  unfold addLogger at h
  split at h
  · rw [← Except.ok.inj h, OrderedMap.get?_insert_of_ne _ _ hname]
  · split at h
    · rw [← Except.ok.inj h, OrderedMap.get?_insert_of_ne _ _ hname]
    · cases h

theorem get?_addTrace_of_ne (htrace : other ≠ "trace_id") (hspan : other ≠ "span_id") :
    (addTrace span event).get? other = event.get? other := by
  unfold addTrace
  split
  · split
    · rw [get?_addMissing_of_ne hspan, get?_addMissing_of_ne htrace]
    · rfl
  · rfl

theorem get?_addCorrelation (active : Option Value) (event : Record) :
    (addCorrelation active event).get? "correlation_id" = (event.get? "correlation_id").or active := by
  unfold addCorrelation
  cases active with
  | none => exact (Option.or_none).symm
  | some id =>
    dsimp only
    cases hv : event.get? "correlation_id" with
    | some v => exact get?_addMissing_of_some hv
    | none =>
      rw [addMissing, OrderedMap.contains, hv, Option.isSome_none, if_neg Bool.false_ne_true,
        OrderedMap.get?_insert_self, Option.none_or]

/-- **The correlation id of a finished event** is the one that it came with, else the active one. -/
theorem get?_correlationId_of_complete {finished : Record}
    (h : complete logger level active span event = .ok finished) :
    finished.get? "correlation_id" = ((event.get? "correlation_id").map decoded).or active := by
  unfold complete at h
  cases hadd : addLogger logger event with
  | error f =>
    rw [hadd] at h
    cases h
  | ok added =>
    rw [hadd] at h
    obtain rfl := Except.ok.inj h
    rw [get?_addTrace_of_ne (by decide) (by decide), get?_addCorrelation, ← get?_addLogger_of_ne hadd (by decide)]
    show (OrderedMap.get? (OrderedMap.map decoded _) _).or _ = _
    simp [OrderedMap.get?_map, OrderedMap.get?_erase, OrderedMap.get?_insert]

/-- The fields of a call are those of its event; the event's name goes with them unless it is absent. -/
theorem get?_assemble {fields : Record} (h : fields.WellFormed) (event : Value) (name : String) :
    (assemble {} fields event).get? name =
      if name = "event" ∧ event.isNull = false then some event else fields.get? name := by
  have hall : (({} : Record).insertAll fields.entries).get? name = fields.get? name := by
    rw [OrderedMap.get?_insertAll_entries h]
    exact Option.or_none
  unfold assemble
  cases hn : event.isNull with
  | true => simp [hall]
  | false => simp [OrderedMap.get?_insert, hall]

end Event

/-! ## Events that are handed over -/

namespace Logger

open Act

variable {w : World} {s : LoggingState} {logger : String} {level : Level} {chain : Option Chain}

/-- Hands a finished event over: it is written as a line, and that is delivered. -/
def handOver (logger : String) (level : Level) (chain : Option Chain) (event : Record) : Act Unit := do
  let w ← get
  let text ← Act.ofExcept ((w.layoutOf chain).render event)
  deliver ⟨logger, level, text⟩ (w.loggers.stages logger)

/-- **An event that passes is finished and handed over once**, or it fails to be finished. -/
theorem perform_emit (hs : w.lineLogging = some s) (hpass : w.loggers.passes s logger level = true) (event : Record) :
    (emit logger level event chain).perform w = match Event.complete logger level w.activeId w.span event with
      | .ok finished => (handOver logger level chain (finished.map w.reveal)).perform w
      | .error f => (.error f, w) := by
  unfold emit
  rw [perform_bind_ok (perform_get w), hs]
  dsimp only
  rw [if_pos hpass]
  cases Event.complete logger level w.activeId w.span event with
  | ok finished =>
    rw [perform_bind_ok (perform_ofExcept (.ok finished) w)]
    dsimp only
    rw [handOver, perform_bind_ok (perform_get w)]
  | error f => exact perform_bind_error (perform_ofExcept (.error f) w) _

/-- Whatever fails on the way of a line, it is kept at no more stages than keep lines. -/
theorem exists_lines_deliver (line : Line) (stages : List (Bool × List Value)) (w : World) :
    ∃ k ≤ (stages.filter Prod.fst).length,
      ((deliver line stages).perform w).2.lines = w.lines ++ List.replicate k line := by
  induction stages generalizing w with
  | nil => exact ⟨0, Nat.le_refl 0, (List.append_nil _).symm⟩
  | cons stage rest ih =>
    obtain ⟨kept, handlers⟩ := stage
    unfold deliver
    cases hf : handlers.findSome? (LoggerTree.handlerFault line.level) with
    | some f =>
      cases kept with
      | false => exact ⟨0, Nat.zero_le _, (List.append_nil _).symm⟩
      | true => exact ⟨1, by simp, rfl⟩
    | none =>
      cases kept with
      | false => exact ih w
      | true =>
        obtain ⟨k, hk, hlines⟩ := ih { w with lines := w.lines ++ [line] }
        refine ⟨k + 1, by simpa using hk, hlines.trans ?_⟩
        rw [List.append_assoc, List.replicate_succ]
        rfl

/-- An event that does not pass is not handed over. -/
theorem perform_emit_of_not_passes
    (h : ∀ s, w.lineLogging = some s → w.loggers.passes s logger level = false) (event : Record) :
    ((emit logger level event chain).perform w).2 = w := by
  unfold emit
  rw [perform_bind_ok (perform_get w)]
  cases hs : w.lineLogging with
  | none =>
    dsimp only
    cases Console.render ((Event.completePlainly level event).map w.reveal) <;> rfl
  | some s =>
    dsimp only
    rw [h s hs]
    rfl

/-- Fields that are logged at a level that does not pass leave nothing behind. -/
theorem perform_logFields_of_not_passes
    (h : ∀ s, w.lineLogging = some s → w.loggers.passes s logger level = false) (event : String) (fields : Record) :
    ((logFields logger level event fields chain).perform w).2 = w := by
  unfold logFields write
  dsimp only
  cases (LogMethod.ofLevel level).signature.check ("BoundLogger." ++ (LogMethod.ofLevel level).name) 1 fields.keys with
  | error f => rfl
  | ok u =>
    rw [perform_bind_ok (perform_ofExcept (.ok u) w), perform_bind_ok (perform_get w)]
    cases refuseParameters w.loggerKind.writerName ["method_name"] (fields.erase "event").keys with
    | error f => rfl
    | ok u =>
      rw [perform_bind_ok (perform_ofExcept (.ok u) w)]
      exact perform_emit_of_not_passes h _

end Logger

end ActivityLog
