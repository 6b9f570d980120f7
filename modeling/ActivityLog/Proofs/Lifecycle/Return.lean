import ActivityLog.Application
import ActivityLog.Proofs.Host.Refusal
import ActivityLog.Proofs.Lifecycle.Completion

/-!
# How a completion ends

A completion that is not only noted ends with the record's way back to the request. Whatever fails before that is noted
(`perform_finish`), so the completion fails just if the request does when something is stored on it, and with the same
(`complete_returns_iff`). `not_complete_returns` is a request that lets its listener fail.
-/

namespace ActivityLog

namespace Lifecycle

variable {env : Surroundings} {w : World} {id : Nat} {p : Pipeline} {l : Lifecycle} {h : Host}

/-- **The completion of a log that waits returns just if the record can go back to the request**, and else fails with
what the request fails with: `h` is the request as it is by then. Neither the field functions nor the hooks of the core
are of any matter, whatever they fail with. -/
theorem complete_returns_iff (hl : w.lifecycles.get? id = some l) (hs : l.state = .awaitingCompletion)
    (hp : w.pipelines.get? l.pipeline = some p)
    (hh : (l.released env id p w).hosts.get? l.request.target = some h) :
    (((complete env id).perform w).1 = .ok () ↔ h.writeFault? = none) ∧
      ∀ f, ((complete env id).perform w).1 = .error f ↔ h.writeFault? = some f := by
  have houtcome : ((complete env id).perform w).1 = h.writeFault?.elim (.ok ()) .error := by
    rw [perform_complete_of_waiting hl hs hp]
    exact Act.perform_writeField_outcome hh recordField _
  rw [houtcome]
  cases h.writeFault? with
  | none => simp
  | some f => simp

/-- An application in which a request waits for completion whose state refuses writes with a kind of fault, and whose
core cannot send. -/
def waiting (fault : String) : World :=
  { hosts := ⟨[{ attributes := ⟨[("state", .value (Host.sealedState fault []))]⟩ }, {}]⟩
    cores := ⟨[.recording { failures := ⟨[("send_log", .fault .runtime "down")]⟩ }]⟩
    pipelines := ⟨[⟨0, {}, .text "info"⟩]⟩
    lifecycles := ⟨[⟨0, ⟨0, .absent, none⟩, ⟨1, .absent, some .onEvent⟩, {}, .awaitingCompletion⟩]⟩ }

/-- A state that does not take attributes is put up with, and so is the core. -/
theorem complete_returns_iff_attribute :
    let w := waiting "AttributeError"
    ∃ l p h, w.lifecycles.get? 0 = some l ∧ l.state = .awaitingCompletion ∧ w.pipelines.get? l.pipeline = some p ∧
      (l.released Application.surroundings 0 p w).hosts.get? l.request.target = some h ∧ h.writeFault? = none ∧
      ((complete Application.surroundings 0).perform w).1 = .ok () := by
  intro w
  have hl : w.lifecycles.get? 0 =
    some ⟨0, ⟨0, .absent, none⟩, ⟨1, .absent, some .onEvent⟩, {}, .awaitingCompletion⟩ := rfl
  have hp : w.pipelines.get? 0 = some ⟨0, {}, .text "info"⟩ := rfl
  have hh : (Lifecycle.released Application.surroundings 0 ⟨0, {}, .text "info"⟩
      ⟨0, ⟨0, .absent, none⟩, ⟨1, .absent, some .onEvent⟩, {}, .awaitingCompletion⟩ w).hosts.get? 0 =
      some { attributes := ⟨[("state", .value (Host.sealedState "AttributeError" []))]⟩ } := rfl
  exact ⟨_, _, _, hl, rfl, hp, hh, rfl, (complete_returns_iff hl rfl hp hh).1.2 rfl⟩

/-- A state that refuses attributes with a fault of another kind lets the completion fail. -/
theorem not_complete_returns :
    let w := waiting "ValueError"
    (∃ l, w.lifecycles.get? 0 = some l ∧ l.state = .awaitingCompletion) ∧
      ((complete Application.surroundings 0).perform w).1 = .error (.fault .value "read-only") :=
  ⟨⟨_, rfl, rfl⟩, rfl⟩

end Lifecycle

end ActivityLog
