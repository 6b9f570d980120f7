import ActivityLog.Proofs.Traffic.Apart

/-!
# Overrides in force

A structured core keeps the overrides that it was told, one after the other (`run_overrides`). Of a name the last value
that was given for it is in force, unless that was absent (`get?_overridesAfter`), and a core that is told another
one answers whether there is one in force from then on (`overrideField_answer`).
-/

namespace ActivityLog

open OrderedMap

namespace Event

/-- The value that an event gives a core for a field. -/
def given? (core : Nat) (name : String) : Event → Option Value
  | .override c n v => if c = core ∧ n = name then some v else none
  | _ => none

/-- The overrides of a core after an event. -/
def overridden (core : Nat) (overrides : Record) : Event → Record
  | .override c name value => if c = core then overrides.store name value else overrides
  | _ => overrides

end Event

/-- The last value that events give a core for a field. -/
def lastGiven? (core : Nat) (name : String) (es : List Event) : Option Value :=
  es.reverse.findSome? (Event.given? core name)

/-- The override of a field that is in force after some events, if a core began with some overrides: the last value that
was given for the field, unless that was absent. -/
def inForce? (core : Nat) (initial : Record) (es : List Event) (name : String) : Option Value :=
  match lastGiven? core name es with
  | some v => v.toOption
  | none => initial.get? name

/-- The overrides of a core after some events. -/
def overridesAfter (core : Nat) (initial : Record) (es : List Event) : Record :=
  es.foldl (Event.overridden core) initial

variable {env : Surroundings} {fs : FieldFunction → Prop} {w : World} {core : Nat} {initial overrides : Record}

/-! ## What is in force -/

theorem lastGiven?_cons (core : Nat) (name : String) (e : Event) (es : List Event) :
    lastGiven? core name (e :: es) = (lastGiven? core name es).or (e.given? core name) := by
  unfold lastGiven?
  rw [List.reverse_cons, List.findSome?_append, List.findSome?_singleton]

theorem Event.get?_overridden (core : Nat) (overrides : Record) (name : String) (e : Event) :
    (e.overridden core overrides).get? name = match e.given? core name with
      | some v => v.toOption
      | none => overrides.get? name := by
  cases e with
  | override c n v =>
    simp only [overridden, given?]
    by_cases hc : c = core
    · rw [if_pos hc, get?_store]
      by_cases hn : n = name
      · rw [if_pos hn.symm, if_pos ⟨hc, hn⟩]
      · rw [if_neg (Ne.symm hn), if_neg fun h => hn h.2]
    · rw [if_neg hc, if_neg fun h => hc h.1]
  | _ => rfl

/-- **Of a name the last value that was given for it is in force**, unless that was absent. -/
theorem get?_overridesAfter (core : Nat) (initial : Record) (es : List Event) (name : String) :
    (overridesAfter core initial es).get? name = inForce? core initial es name := by
  induction es generalizing initial with
  | nil => rfl
  | cons e es ih =>
    refine (ih (e.overridden core initial)).trans ?_
    unfold inForce?
    rw [lastGiven?_cons, Event.get?_overridden]
    cases lastGiven? core name es <;> rfl

theorem wellFormed_overridesAfter (h : initial.WellFormed) (es : List Event) :
    (overridesAfter core initial es).WellFormed := by
  unfold overridesAfter
  induction es generalizing initial with
  | nil => exact h
  | cons e es ih =>
    refine ih ?_
    cases e with
    | override c name value =>
      simp only [Event.overridden]
      split
      · exact wellFormed_store h name value
      · exact h
    | _ => exact h

/-! ## What cores keep -/

theorem Standard.perform_overrideField (h : w.overridesOf? core = some overrides) (name : String) (value : Value) :
    (((Standard.core core).overrideField name value).perform w).1 = .ok ((overrides.store name value).contains name) ∧
      (((Standard.core core).overrideField name value).perform w).2.overridesOf? core =
        some (overrides.store name value) := by
  obtain ⟨c, hc, rfl⟩ := World.structured_of_overridesOf? h
  unfold Standard.core
  dsimp only
  rw [Act.perform_bind_ok (perform_current hc)]
  let c' : StructuredCore := { c with overrides := c.overrides.store name value }
  have hset : ({ w with cores := w.cores.set core (.structured c') } : World).overridesOf? core = some c'.overrides :=
    World.overridesOf?_of_structured (Table.get?_set_self hc _)
  exact ⟨rfl, hset⟩

/-- An event changes the overrides of a core as it tells, and leaves those of others alone. -/
theorem Event.step_overrides (h : env.Secluded fs) (hw : w.Calls fs) (e : Event)
    (ho : w.overridesOf? core = some overrides) :
    (e.step env.watched w).overridesOf? core = some (e.overridden core overrides) := by
  have hstep := e.step_confined h hw
  by_cases hcore : (e.scope w).core = some core
  · cases e with
    | override c name value =>
      obtain rfl : c = core := Option.some.inj hcore
      simp only [overridden, if_true]
      show (((env.watched.core c).overrideField name value).perform w).2.overridesOf? c = _
      rw [h.core_watched]
      exact (Standard.perform_overrideField ho name value).2
    | completion id arguments =>
      rw [core_scope_completion] at hcore
      cases hcore
    | _ => cases hcore
  · rw [hstep.overrides core hcore, ho]
    cases e with
    | override c name value =>
      have hc : c ≠ core := fun hc => hcore (congrArg some hc)
      simp only [overridden, if_neg hc]
    | _ => rfl

/-- **A core keeps the overrides that it was told.** -/
theorem run_overrides (h : env.Secluded fs) (hw : w.Calls fs) (es : List Event)
    (ho : w.overridesOf? core = some overrides) :
    (run env.watched es w).overridesOf? core = some (overridesAfter core overrides es) := by
  induction es generalizing w overrides with
  | nil => exact ho
  | cons e es ih => exact ih ((e.step_steady h.discreet hw).1.calls hw) (e.step_overrides h hw ho)

/-- **A core that is told an override answers whether one is in force from then on.** -/
theorem overrideField_answer (h : env.Secluded fs) (hw : w.Calls fs) (es : List Event)
    (ho : w.overridesOf? core = some overrides) (name : String) (value : Value) :
    (((env.core core).overrideField name value).perform (run env.watched es w)).1 =
      .ok (inForce? core overrides (es ++ [.override core name value]) name).isSome := by
  rw [h.core, (Standard.perform_overrideField (run_overrides h hw es ho) name value).1]
  have hlast : overridesAfter core overrides (es ++ [.override core name value]) =
      (overridesAfter core overrides es).store name value := by
    simp [overridesAfter, List.foldl_append, Event.overridden]
  rw [← hlast, ← get?_overridesAfter]
  rfl

end ActivityLog
