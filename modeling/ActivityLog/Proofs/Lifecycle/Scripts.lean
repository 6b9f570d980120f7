import ActivityLog.Proofs.Lifecycle.Seclusion

/-!
# Scripts

Scripts touch nothing but the hosts of their request (`Script.still_run`), so an application is discreet towards them
(`Application.discreet`). Those that only read the record, the response, and of the request what is not touched keep to
their request (`Application.secluded`). Scripts and built-in functions alike only look at hosts and draw time, ids and
counts (`Application.drawn_of_isPlain`).
-/

namespace ActivityLog

open Act

/-- The script reads the record, the response, and of the request what neither pipelines nor cores touch, and nothing
else. -/
def Script.isReader : Script Value → Bool
  | .const _ | .recorded _ _ | .demanded _ | .ofResponse _ | .snapshot | .keys | .sub _ _ | .fail _ _ => true
  | .ofRequest name => !Host.touchedNames.contains name
  | _ => false

namespace FieldFunction

/-- The function is a script. -/
def IsScript (f : FieldFunction) : Prop := ∃ s, f = .script s

/-- The function is a script that only reads. -/
def IsReader (f : FieldFunction) : Prop := ∃ s : Script Value, f = .script s ∧ s.isReader = true

/-- The function is a script or a built-in one. -/
def IsPlain (f : FieldFunction) : Prop := (∃ s, f = .script s) ∨ ∃ g : Builtin, f = g.toFunction

end FieldFunction

variable {w w' : World} {record : Record}

namespace Script

/-- A script touches nothing but the hosts of its request. -/
theorem still_run (s : Script Value) (parties : Parties) (record : Record) (w : World) :
    Still { hosts := [parties.request, parties.response] } w (s.run parties record w).2.2 := by
  have hread {id : Nat} (hid : id ∈ [parties.request, parties.response]) (name : String) :
      Still { hosts := [parties.request, parties.response] } w (read w id name record).2.2 := by
    show Still _ w (if (w.hostOf id).isMapping then w else w.look id name)
    split
    · exact refl_of (Still _) w
    · exact Still.look hid w name
  cases s with
  | ofRequest name => exact hread List.mem_cons_self name
  | ofResponse name => exact hread (List.mem_cons_of_mem _ List.mem_cons_self) name
  | _ => exact Still.of_same rfl rfl rfl rfl rfl

/-- Reading a host that is the same gives the same and leaves it the same. -/
theorem read_congr (record : Record) {id : Nat} (h : w.hosts.get? id = w'.hosts.get? id) (name : String) :
    (read w id name record).1 = (read w' id name record).1 ∧
      (read w id name record).2.2.hosts.get? id = (read w' id name record).2.2.hosts.get? id := by
  have hof : w.hostOf id = w'.hostOf id := by rw [World.hostOf, h]; rfl
  have hlook : (w.look id name).hosts.get? id = (w'.look id name).hosts.get? id := by
    simp only [World.look, Table.get?_modify, h]
  have hoflook : (w.look id name).hostOf id = (w'.look id name).hostOf id := by rw [World.hostOf, hlook]; rfl
  unfold read
  rw [hof]
  split
  · exact ⟨congrArg (Host.member · name) hof, h⟩
  · exact ⟨congrArg (Host.member · name) hoflook, hlook⟩

/-- Reading a host leaves others alone. -/
theorem read_hosts_of_ne {id n : Nat} (hne : id ≠ n) (name : String) :
    (read w id name record).2.2.hosts.get? n = w.hosts.get? n := by
  show (if (w.hostOf id).isMapping then w else w.look id name).hosts.get? n = _
  split
  · rfl
  · exact (Table.get?_modify _ _ _ _).trans (if_neg hne)

/-- Reading what is not touched is reading without a look. -/
theorem read_of_not_touched (w : World) (id : Nat) (record : Record) {name : String} (hn : name ∉ Host.touchedNames) :
    (read w id name record).1 = (w.hostOf id).member name ∧
      ∀ n, (read w id name record).2.2.hosts.get? n = w.hosts.get? n := by
  by_cases hmap : (w.hostOf id).isMapping = true
  · unfold read
    rw [if_pos hmap]
    exact ⟨rfl, fun _ => rfl⟩
  · have hhosts (n : Nat) : (w.look id name).hosts.get? n = w.hosts.get? n := by
      refine (Table.get?_modify _ _ _ _).trans ?_
      split
      · next hid =>
        subst hid
        cases hw : w.hosts.get? id with
        | none => rfl
        | some h =>
          have hof : w.hostOf id = h := by rw [World.hostOf, hw]; rfl
          rw [hof, Bool.not_eq_true] at hmap
          exact congrArg some (Host.seen_of_not_touched hmap hn)
      · rfl
    have hof : (w.look id name).hostOf id = w.hostOf id := by rw [World.hostOf, hhosts]; rfl
    unfold read
    rw [if_neg hmap]
    exact ⟨congrArg (Host.member · name) hof, hhosts⟩

end Script

namespace Application

/-- The surroundings of an application are discreet towards scripts. -/
theorem discreet : surroundings.Discreet FieldFunction.IsScript := by
  refine Standard.discreet rfl ?_
  rintro parties _ ⟨s, rfl⟩ record w
  exact (s.still_run parties record w).quiet

/-- Scripts that only read give the same in related states if reading the hosts does. -/
theorem reads_of {S : Nat → Nat → World → World → Prop}
    (request : ∀ q r w w' name record, S q r w w' → name ∉ Host.touchedNames →
      (Script.read w q name record).1 = (Script.read w' q name record).1 ∧
        S q r (Script.read w q name record).2.2 (Script.read w' q name record).2.2)
    (response : ∀ q r w w' name record, q ≠ r → S q r w w' →
      (Script.read w r name record).1 = (Script.read w' r name record).1 ∧
        S q r (Script.read w r name record).2.2 (Script.read w' r name record).2.2) :
    surroundings.Reads FieldFunction.IsReader S := by
  rintro q r hne log log' _ ⟨s, rfl, hs⟩ record w w' h
  cases s with
  | ofRequest name => exact request q r w w' name record h (by simpa [Script.isReader] using hs)
  | ofResponse name => exact response q r w w' name record hne h
  | _ => first
    | exact ⟨rfl, h⟩
    | cases hs

/-- **An application keeps scripts that only read to their request.** -/
theorem secluded : surroundings.Secluded FieldFunction.IsReader where
  core := rfl
  record := by
    rintro parties _ ⟨s, rfl, hs⟩ record w
    cases s <;> first
      | rfl
      | cases hs
  same := by
    refine reads_of (fun q r w w' name record h hn => ?_) fun q r w w' name record hne h => ?_
    · obtain ⟨hresult, hhosts⟩ := Script.read_of_not_touched w q record hn
      obtain ⟨hresult', hhosts'⟩ := Script.read_of_not_touched w' q record hn
      refine ⟨?_, ?_, ?_⟩
      · rw [hresult, hresult', World.hostOf, h.request]
        rfl
      · rw [hhosts, hhosts', h.request]
      · rw [hhosts, hhosts', h.response]
    · obtain ⟨hresult, hresponse⟩ := Script.read_congr record h.response name
      refine ⟨hresult, ?_, hresponse⟩
      rw [Script.read_hosts_of_ne hne.symm, Script.read_hosts_of_ne hne.symm, h.request]
  alike := by
    refine reads_of (fun q r w w' name record h hn => ?_) fun q r w w' name record hne h => ?_
    · obtain ⟨hresult, hhosts⟩ := Script.read_of_not_touched w q record hn
      obtain ⟨hresult', hhosts'⟩ := Script.read_of_not_touched w' q record hn
      have hrequest := h.request
      refine ⟨?_, ?_, ?_⟩
      · rw [hresult, hresult', World.member_untouched hrequest hn]
      · unfold World.untouched at hrequest ⊢
        rw [hhosts, hhosts', hrequest]
      · rw [hhosts, hhosts', h.response]
    · obtain ⟨hresult, hresponse⟩ := Script.read_congr record h.response name
      have hrequest := h.request
      refine ⟨hresult, ?_, hresponse⟩
      unfold World.untouched at hrequest ⊢
      rw [Script.read_hosts_of_ne hne.symm, Script.read_hosts_of_ne hne.symm, hrequest]
  still := by
    rintro parties _ ⟨s, rfl, -⟩ record w
    exact s.still_run parties record w

/-- At most one host has been looked at, and time, ids and counts have been drawn. All else is as it was. -/
def Drawn (w w' : World) : Prop :=
  ∃ hosts clock serial counter, w' = { w with hosts, clock, serial, counter } ∧
    (hosts = w.hosts ∨ ∃ id name, hosts = (w.look id name).hosts)

/-- A script looks at a host at most, and counts. -/
theorem drawn_script (s : Script Value) (parties : Parties) (record : Record) (w : World) :
    Drawn w (s.run parties record w).2.2 := by
  have hread (id : Nat) (name : String) : Drawn w (Script.read w id name record).2.2 := by
    show Drawn w (if (w.hostOf id).isMapping then w else w.look id name)
    split
    · exact ⟨_, _, _, _, rfl, .inl rfl⟩
    · exact ⟨_, _, _, _, rfl, .inr ⟨id, name, rfl⟩⟩
  cases s with
  | ofRequest name => exact hread _ name
  | ofResponse name => exact hread _ name
  | _ => exact ⟨_, _, _, _, rfl, .inl rfl⟩

/-- A built-in function looks at a host at most, and draws time and ids. -/
theorem drawn_builtin (g : Builtin) (parties : Parties) (record : Record) (w : World) :
    Drawn w (g.run parties record w).2.2 := by
  have htick : Drawn w w.tick.2 := by
    unfold World.tick
    split <;> exact ⟨_, _, _, _, rfl, .inl rfl⟩
  cases g with
  | receivedAt | sentAt => exact htick
  | requestPath => exact ⟨_, _, _, _, rfl, .inr ⟨_, _, rfl⟩⟩
  | _ => exact ⟨_, _, _, _, rfl, .inl rfl⟩

/-- **Scripts and built-in functions look at hosts and draw**, and leave all else alone. -/
theorem drawn_of_isPlain (parties : Parties) {f : FieldFunction} (hf : f.IsPlain) (record : Record) (w : World) :
    Drawn w (surroundings.call parties f record w).2.2 := by
  rcases hf with ⟨s, rfl⟩ | ⟨g, rfl⟩
  · exact drawn_script s parties record w
  · exact drawn_builtin g parties record w

end Application

end ActivityLog
