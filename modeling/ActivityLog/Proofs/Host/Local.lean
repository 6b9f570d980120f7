import ActivityLog.Proofs.Act

/-!
# Steps on one host

What a step on one host gives, and how it leaves the host, depends on that host only (`Act.Local`). Making an adapter
and registering for completion are such steps.
-/

namespace ActivityLog

namespace Act

variable {α β : Type} {n : Nat}

/-- In two states with the same host the step gives the same, and leaves the host the same. -/
def Local (n : Nat) (x : Act α) : Prop :=
  ∀ w w' : World, w.hosts.get? n = w'.hosts.get? n →
    (x.perform w).1 = (x.perform w').1 ∧ (x.perform w).2.hosts.get? n = (x.perform w').2.hosts.get? n

namespace Local

theorem pure (a : α) : Local n (Pure.pure a : Act α) := fun _ _ h => ⟨rfl, h⟩

theorem throw (f : Failure) : Local n (throw f : Act α) := fun _ _ h => ⟨rfl, h⟩

theorem diagnose (ds : List Diagnostic) : Local n (Act.diagnose ds) := fun _ _ h => ⟨rfl, h⟩

theorem ofExcept (r : Except Failure α) : Local n (Act.ofExcept r) := by
  cases r with
  | error f => exact throw f
  | ok a => exact pure a

theorem setHost (h : Host) : Local n (Act.setHost n h) := by
  refine fun w w' hw => ⟨rfl, ?_⟩
  show (w.hosts.set n h).get? n = (w'.hosts.set n h).get? n
  rw [Table.get?_set, Table.get?_set, hw]

theorem bind {x : Act α} {g : α → Act β} (hx : Local n x) (hg : ∀ a, Local n (g a)) : Local n (x >>= g) := by
  intro w w' hw
  obtain ⟨hresult, hhost⟩ := hx w w' hw
  rcases hr : x.perform w with ⟨f | a, v⟩ <;> rcases hr' : x.perform w' with ⟨f' | a', v'⟩ <;>
    rw [hr, hr'] at hresult hhost <;> cases hresult
  · rw [perform_bind_error hr, perform_bind_error hr']
    exact ⟨rfl, hhost⟩
  · rw [perform_bind_ok hr, perform_bind_ok hr']
    exact hg a v v' hhost

theorem host : Local n (Act.host n) := by
  intro w w' hw
  cases h : w.hosts.get? n with
  | none =>
    simp only [Act.host, perform_bind, perform_get, h, ← hw, perform_row_none]
    exact ⟨trivial, trivial⟩
  | some a =>
    rw [perform_host h, perform_host (hw ▸ h)]
    exact ⟨rfl, hw⟩

theorem look (name : String) : Local n (Act.look n name) :=
  bind host fun _ => bind (setHost _) fun _ => pure _

/-- Making the adapter of a host. -/
theorem adapter : Local n (Act.adapter n) := by
  refine bind host fun h => ?_
  dsimp only
  split
  · exact bind (look _) fun _ => ofExcept _
  · exact bind host fun _ => ofExcept _

/-- Registering for the completion of a host. -/
theorem onCompletion {a : Adapter} (ha : a.target = n) (l : Listener) : Local n (Act.onCompletion a l) := by
  subst ha
  have put (h : Host) : Local a.target (do Act.setHost a.target h; return true) :=
    bind (setHost h) fun _ => pure true
  unfold Act.onCompletion
  split
  · exact bind (diagnose _) fun _ => pure _
  · exact throw _
  · refine bind host fun h => ?_
    dsimp only
    split
    · split
      · exact bind (throw _) fun _ => pure _
      · exact put _
    · exact put _
    · exact put _

end Local

end Act

end ActivityLog
