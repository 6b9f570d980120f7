import ActivityLog.Failure
import ActivityLog.Table
import ActivityLog.Value.Display

/-!
# Request contexts

A context carries the correlation id of the request being served and further attributes. One context at most is
active. Entering a context makes it active and notes on it what was active before; leaving it brings that back, once.
`exit_enter`: leaving directly after entering restores what was active.
-/

namespace ActivityLog

/-- A note of what was active before a context was entered, and whether it has been used. -/
structure Restore where
  previous : Option Nat
  used : Bool

/-- A context. -/
structure RequestContext where
  correlationId : Value
  attributes : OrderedMap Value := {}
  /-- Made outside of any request. -/
  detached : Bool := false
  restore : Option Restore := none

/-- All contexts, and the active one. -/
structure Contexts where
  table : Table RequestContext := {}
  active : Option Nat := none

namespace Contexts

/-- A further context, not active. -/
def add (cs : Contexts) (c : RequestContext) : Contexts := { cs with table := cs.table.add c }

/-- A further context, active from now on. -/
def activate (cs : Contexts) (c : RequestContext) : Contexts :=
  { table := cs.table.add c, active := some cs.table.next }

/-- The active context. -/
def current? (cs : Contexts) : Option RequestContext := cs.active.bind cs.table.get?

/-- Makes a context active. -/
def enter (cs : Contexts) (id : Nat) : Contexts :=
  { table := cs.table.modify id fun c => { c with restore := some ⟨cs.active, false⟩ }, active := some id }

/-- Leaves a context: what was noted on it becomes active again. A note serves once. -/
def exit (cs : Contexts) (id : Nat) : Except Failure Contexts :=
  match (cs.table.get? id).bind (·.restore) with
  | none => .error (.fault .attribute "'RequestContext' object has no attribute '_token'")
  | some ⟨previous, false⟩ =>
    .ok { table := cs.table.modify id fun c => { c with restore := some ⟨previous, true⟩ }, active := previous }
  | some ⟨_, true⟩ => .error (.fault .runtime "<Token> has already been used once")

/-- Leaving a context directly after entering it restores what was active. -/
theorem exit_enter (cs : Contexts) (id : Nat) (h : (cs.table.get? id).isSome) :
    (((cs.enter id).exit id).map (·.active)).toOption = some cs.active := by
  obtain ⟨⟨rows⟩, active⟩ := cs
  simp only [Table.get?] at h
  obtain ⟨c, hc⟩ := Option.isSome_iff_exists.1 h
  simp [exit, enter, Table.get?, Table.modify, hc, Except.map, Except.toOption]

end Contexts

end ActivityLog
