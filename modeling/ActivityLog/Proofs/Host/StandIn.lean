import ActivityLog.Proofs.Host.Refusal
import ActivityLog.Proofs.Host.Touch
import ActivityLog.Proofs.Lifecycle.Scope

/-!
# Hosts that stay in service

While a request is served its host has to take the record, and the stand-in for its response has to keep who waits for
it. Looks at hosts keep both, and so does whatever pipelines and cores store on requests (`Intact`).

- `Host.writeFault?_of_store`: what is stored on a host does not make it fail where it did not fail before, nor does a
  look at it (`Host.writeFault?_seen`).
- `Host.readField_standIn`, `Host.readBound_standIn`: what a stand-in shows is its response's, as soon as it has one.
- `World.StandsIn`: a stand-in as it was made. It is registered with (`perform_onCompletion`), bound to a
  response (`perform_bindAt`) and told of the completion (`perform_fire`), and no other host changes (`OnlyAt`).
-/

namespace ActivityLog

open Act

namespace Host

variable {h h' : Host} {name : String} {v : Value}

/-! ## What a host fails with -/

/-- A host with another state that takes values. -/
theorem writeFault?_withState {kind : ObjectKind} {values : List (String × Value)}
    (hs : h.content "state" = .ok (.object kind values)) (hm : h.isMutableMapping = false) {state : Value}
    (hstate : stateFault? state = none) (hnull : state ≠ .null) : (h.withState state).writeFault? = none := by
  have hm' : (h.withState state).isMutableMapping = false := by
    unfold withState
    split
    · rfl
    · unfold withValue
      split <;> exact hm
  unfold writeFault?
  rw [hm', if_neg Bool.false_ne_true, content_withState hs]
  cases state <;> first
    | exact absurd rfl hnull
    | exact hstate

/-- **What is stored on a host under a name of its own does not keep it from taking more.** -/
theorem writeFault?_of_store (hname : name ∈ storedNames) (hdone : h.writeField name v = .done h') :
    h'.writeFault? = none := by
  have hfree : ∀ stored ∈ storedNames, "state" ≠ stored ∧ stored ∉ ["__dict__", "response", "_listeners"] := by decide
  obtain ⟨hstate, hfree⟩ := hfree name hname
  simp only [List.mem_cons, List.not_mem_nil, or_false, not_or] at hfree
  have hbefore : h.writeFault? = none := fault?_writeField.symm.trans (congrArg Write.fault? hdone)
  unfold writeField at hdone
  split at hdone
  · rw [writeItem_done hdone, writeFault?_withItem, hbefore]
  · next hm =>
    rw [Bool.not_eq_true] at hm
    split at hdone
    · cases hdone
    · rw [writeAttr_done_of_free hfree.1 (fun _ _ => hfree.2) hdone, writeFault?_withAttr _ hstate, hbefore]
    · next state hs =>
      unfold writeState at hdone
      split at hdone
      · exact absurd hdone (refusal_ne_done _)
      · split at hdone
        · cases hdone
        · cases hdone
          exact writeFault?_withState hs hm rfl nofun
      · next hkind =>
        cases hdone
        refine writeFault?_withState hs hm ?_ ?_
        · unfold withValues
          split <;> first
            | rfl
            | simp_all [stateFault?]
        · unfold withValues
          split <;> simp_all [openState]
      · cases hdone

end Host

/-! ## One host and what is noted -/

/-- From one state to the next only the host `n` may have changed, and only these calls were noted. -/
structure OnlyAt (n : Nat) (calls : List (List Value)) (w w' : World) : Prop where
  same : w' = { w with hosts := w'.hosts, calls := w'.calls }
  hosts : ∀ m, m ≠ n → w'.hosts.get? m = w.hosts.get? m
  calls : ∃ notes, w'.calls = w.calls ++ notes ∧ notes.map Call.arguments = calls

namespace OnlyAt

variable {n : Nat} {calls calls' : List (List Value)} {w w' w'' : World}

protected theorem refl (n : Nat) (w : World) : OnlyAt n [] w w := ⟨rfl, fun _ _ => rfl, [], by simp⟩

protected theorem trans (h : OnlyAt n calls w w') (h' : OnlyAt n calls' w' w'') :
    OnlyAt n (calls ++ calls') w w'' := by
  obtain ⟨notes, hw', rfl⟩ := h.calls
  obtain ⟨notes', hw'', rfl⟩ := h'.calls
  refine ⟨?_, fun m hm => (h'.hosts m hm).trans (h.hosts m hm), notes ++ notes', ?_, List.map_append⟩
  · rw [h'.same, h.same]
  · rw [hw'', hw', List.append_assoc]

theorem host (w : World) (h : Host) : OnlyAt n [] w { w with hosts := w.hosts.set n h } :=
  ⟨rfl, fun m hm => by rw [Table.get?_set, if_neg hm], [], by simp⟩

theorem note (n : Nat) (call : List Value) (w : World) :
    OnlyAt n [call] w { w with calls := w.calls ++ [⟨call, w.hosts, w.lifecycles⟩] } :=
  ⟨rfl, fun _ _ => rfl, _, rfl, rfl⟩

/-- Without notes nothing but the host concerns other steps. -/
theorem still (h : OnlyAt n [] w w') : Still { hosts := [n] } w w' := by
  obtain ⟨notes, hcalls, hnotes⟩ := h.calls
  obtain rfl := List.map_eq_nil_iff.1 hnotes
  rw [List.append_nil] at hcalls
  refine ⟨⟨fun m hm => h.hosts m fun he => hm (List.mem_singleton.2 he), fun m _ => ?_, ?_, fun m _ => ?_⟩,
    fun m => ?_, ?_⟩
  · rw [h.same]
  · rw [h.same]
  · rw [h.same]
    rfl
  · rw [h.same]
  · unfold World.emissions
    rw [hcalls]

end OnlyAt

/-! ## Stand-ins -/

namespace Handle

/-- The stand-in after the headers of its response have been looked at. -/
def looked (stand : Handle) : Handle :=
  match stand.response with
  | some (.response r) => { stand with response := some (.response { r with looked := true }) }
  | _ => stand

theorem looked_looked (stand : Handle) : stand.looked.looked = stand.looked := by
  obtain ⟨response, listeners⟩ := stand
  rcases response with _ | ⟨r | v⟩ <;> rfl

theorem listeners_looked (stand : Handle) : stand.looked.listeners = stand.listeners := by
  obtain ⟨response, listeners⟩ := stand
  rcases response with _ | ⟨r | v⟩ <;> rfl

end Handle

/-! ## What is read of a stand-in -/

/-- The names under which a stand-in has something of its own, whatever it passes reads on to. -/
def Handle.isOwn (name : String) : Bool :=
  ((Host.methods (.handle {})).lookup name).isSome || (Host.standInType.common? name).isSome ||
    ["__dict__", "response", "_listeners"].contains name

theorem Response.attr?_state (r : Response) : r.attr? "state" = none := by
  unfold attr?
  cases r.body <;> rfl

namespace Host

variable {h : Host} {name : String} {stand : Handle} {r : Option Response}

/-- What is not the stand-in's own comes from what it passes reads on to. -/
theorem natural?_standIn (hn : h.nature = .handle stand) (hown : Handle.isOwn name = false) :
    h.natural? name = stand.response.bind (·.attr? name) := by
  simp only [Handle.isOwn, Bool.or_eq_false_iff, Option.isSome_eq_false_iff, Option.isNone_iff_eq_none,
    List.contains_cons, List.contains_nil, Bool.or_false, beq_eq_false_iff_ne] at hown
  obtain ⟨⟨hmethod, htype⟩, hdict, hresponse, hlisteners⟩ := hown
  have hmethod' : (methods (.handle stand)).lookup name = none := hmethod
  have htype' : ((typeOf? (.handle stand)).bind fun t => t.common? name) = none := htype
  unfold natural?
  rw [hn, hmethod', htype']
  simp only [if_neg hdict, standInAttr?, if_neg hresponse, if_neg hlisteners]

/-- **A stand-in shows of its response all that is not its own**, and nothing before there is one. -/
theorem readField_standIn (hn : h.nature = .handle stand) (ha : h.attributes = {})
    (hr : stand.response = r.map .response) (hown : Handle.isOwn name = false) :
    h.readField name = .ok ((r.bind (·.attr? name)).getD .null) := by
  have hnatural : h.natural? name = r.bind (·.attr? name) := by
    rw [natural?_standIn hn hown, hr]
    cases r <;> rfl
  have hcontent : h.content name = .ok ((r.bind (·.attr? name)).getD .null) := by
    unfold content find?
    rw [ha, hnatural]
    cases r.bind (·.attr? name) <;> rfl
  have hattr : h.attr name = h.content name := by
    -- A response has no state, so that what is read is not referred to.
    have hstate : (name = "state" && isOpenState ((r.bind (·.attr? name)).getD .null)) = false := by
      by_cases hname : name = "state"
      · subst hname
        cases r with
        | none => rfl
        | some r => simp [r.attr?_state, isOpenState]
      · simp [hname]
    unfold attr
    rw [hcontent, hn]
    simp only [Except.map, hstate, Bool.false_eq_true, if_false]
  have hmapping : h.isMapping = false := by unfold isMapping; rw [hn]
  unfold readField
  rw [hattr, hcontent, hn, hmapping]
  cases (r.bind (·.attr? name)).getD .null <;> rfl

/-- **A stand-in shows the headers of its response**, and none before there is one. -/
theorem readBound_standIn (hn : h.nature = .handle stand) (hr : stand.response = r.map .response) :
    Adapter.readBound h name = r.elim (.ok .null) fun r => Headers.ask r.headerValue name := by
  obtain ⟨response, listeners⟩ := stand
  obtain rfl := hr
  unfold Adapter.readBound
  rw [hn]
  cases r <;> rfl

/-- A look at a stand-in. -/
theorem seen_standIn (hn : h.nature = .handle stand) (ha : h.attributes = {}) (name : String) :
    (h.seen name).nature = .handle (if name = "headers" then stand.looked else stand) ∧
      (h.seen name).attributes = {} := by
  obtain ⟨response, listeners⟩ := stand
  unfold seen
  rw [hn]
  rcases response with _ | ⟨r | v⟩
  · exact ⟨by rw [hn]; split <;> rfl, ha⟩
  · have hfree : (∅ : OrderedMap Attribute).contains "headers" = false := rfl
    by_cases hname : name = "headers"
    · simp [hname, ha, hfree, Handle.looked]
    · simp [hname, hn, ha]
  · exact ⟨by dsimp only; rw [hn]; split <;> rfl, ha⟩

end Host

/-! ## Stand-ins that stay in service -/

/-- A stand-in at a host as it was made, without attributes of its own. -/
def World.StandsIn (w : World) (id : Nat) (stand : Handle) : Prop :=
  ∃ h, w.hosts.get? id = some h ∧ h.nature = .handle stand ∧ h.attributes = {}

/-- What is stored on the host does not fail. -/
def World.Takes (w : World) (id : Nat) : Prop := ∃ h, w.hosts.get? id = some h ∧ h.writeFault? = none

/-- Hosts that took what is stored on them still do, and a stand-in is the same, but for what was looked at. -/
structure Intact (s : Nat) (w w' : World) : Prop where
  takes : ∀ n, w.Takes n → w'.Takes n
  standIn : ∀ stand, w.StandsIn s stand → w'.StandsIn s stand ∨ w'.StandsIn s stand.looked

variable {s n : Nat} {w w' : World} {stand : Handle} {h h' : Host}

namespace Intact

theorem of_hosts (hh : ∀ n, w'.hosts.get? n = w.hosts.get? n) : Intact s w w' := by
  refine ⟨fun n hn => ?_, fun stand hs => .inl ?_⟩
  · unfold World.Takes at hn ⊢
    rwa [hh]
  · unfold World.StandsIn at hs ⊢
    rwa [hh]

instance : IsPreorder World (Intact s) where
  refl _ := of_hosts fun _ => rfl
  trans _ _ _ h h' := by
    refine ⟨fun n hn => h'.takes n (h.takes n hn), fun stand hs => ?_⟩
    rcases h.standIn stand hs with hsame | hlooked
    · exact h'.standIn stand hsame
    · refine .inr ?_
      have hagain := h'.standIn _ hlooked
      rwa [Handle.looked_looked, or_self] at hagain

/-- A host is replaced by one that takes as much; the stand-in's is the same, but for what was looked at. -/
theorem of_set (hh : w.hosts.get? n = some h) (htakes : h.writeFault? = none → h'.writeFault? = none)
    (hs : n = s → ∀ stand, h.nature = .handle stand → h.attributes = {} →
      (h'.nature = .handle stand ∨ h'.nature = .handle stand.looked) ∧ h'.attributes = {}) :
    Intact s w { w with hosts := w.hosts.set n h' } := by
  have hset : (w.hosts.set n h').get? n = some h' := Table.get?_set_self hh h'
  have hother (m : Nat) (hm : m ≠ n) : (w.hosts.set n h').get? m = w.hosts.get? m := by
    rw [Table.get?_set, if_neg hm]
  refine ⟨?_, ?_⟩
  · rintro m ⟨h₀, hh₀, hnone⟩
    by_cases hm : m = n
    · subst hm
      obtain rfl := Option.some.inj (hh.symm.trans hh₀)
      exact ⟨h', hset, htakes hnone⟩
    · exact ⟨h₀, (hother m hm).trans hh₀, hnone⟩
  · rintro stand ⟨h₀, hh₀, hn, ha⟩
    by_cases hm : s = n
    · subst hm
      obtain rfl := Option.some.inj (hh.symm.trans hh₀)
      obtain ⟨hn' | hn', ha'⟩ := hs rfl stand hn ha
      · exact .inl ⟨h', hset, hn', ha'⟩
      · exact .inr ⟨h', hset, hn', ha'⟩
    · exact .inl ⟨h₀, (hother s hm).trans hh₀, hn, ha⟩

/-- A look at a host, be it the stand-in's. -/
theorem seen (hh : w.hosts.get? n = some h) (name : String) :
    Intact s w { w with hosts := w.hosts.set n (h.seen name) } := by
  refine of_set hh (fun hnone => (h.writeFault?_seen name).trans hnone) fun _ stand hn ha => ?_
  unfold Host.seen
  rw [hn]
  dsimp only
  split
  · next hk => cases hk
  · next r listeners hk =>
    obtain rfl := Nature.handle.inj hk
    split
    · exact ⟨.inr rfl, ha⟩
    · exact ⟨.inl hn, ha⟩
  · exact ⟨.inl hn, ha⟩

/-- Whatever pipelines and cores do to a host that is not the stand-in's. -/
theorem touched (hne : n ≠ s) (w : World) (h h' : Host) (hh : w.hosts.get? n = some h) (ht : h.Touched h') :
    Intact s w { w with hosts := w.hosts.set n h' } := by
  refine of_set hh (fun hnone => ?_) fun heq => absurd heq hne
  cases ht with
  | store hname hdone => exact Host.writeFault?_of_store hname hdone
  | look _ _ => exact (h.writeFault?_seen _).trans hnone

theorem diagnostics (w : World) (ds : List Diagnostic) : Intact s w { w with diagnostics := ds } :=
  of_hosts fun _ => rfl

/-- A look at a host that may be missing. -/
theorem look (w : World) (n : Nat) (name : String) : Intact s w (w.look n name) := by
  cases hh : w.hosts.get? n with
  | none =>
    refine of_hosts fun m => (Table.get?_modify _ _ _ _).trans ?_
    split
    · next hn => rw [← hn, hh]; rfl
    · rfl
  | some h =>
    refine trans_of (Intact s) (seen hh name) (of_hosts fun m => (Table.get?_modify _ _ _ _).trans ?_)
    dsimp only
    rw [Table.get?_set]
    by_cases hm : n = m
    · subst hm
      rw [if_pos rfl, if_pos rfl, hh]
      rfl
    · rw [if_neg hm, if_neg (Ne.symm hm)]

theorem writeField (hne : n ≠ s) {name : String} (hname : name ∈ storedNames) (v : Value) :
    Keeps (Intact s) (Act.writeField n name v) := Touching.writeField (touched hne) diagnostics hname v

end Intact

namespace World

/-- A step that concerns other hosts only. -/
theorem StandsIn.still {scope : Scope} (hs : w.StandsIn n stand) (hstill : Still scope w w') (hn : n ∉ scope.hosts) :
    w'.StandsIn n stand := by
  unfold StandsIn at hs ⊢
  rwa [hstill.hosts n hn]

theorem Takes.still {scope : Scope} (ht : w.Takes n) (hstill : Still scope w w') (hn : n ∉ scope.hosts) :
    w'.Takes n := by
  unfold Takes at ht ⊢
  rwa [hstill.hosts n hn]

/-! ## What is done with a stand-in -/

namespace StandsIn

variable (hs : w.StandsIn s stand)
include hs

theorem perform_standIn : (Handle.standIn s).perform w = (.ok stand, w) := by
  obtain ⟨h, hh, hn, -⟩ := hs
  unfold Handle.standIn
  rw [perform_bind_ok (perform_host hh), hn]
  rfl

theorem perform_demandMethod (name : String) : (Handle.demandMethod s name).perform w = (.ok (), w) := by
  obtain ⟨h, hh, -, ha⟩ := hs
  unfold Handle.demandMethod
  rw [perform_bind_ok (perform_host hh), ha]
  rfl

/-- The stand-in is replaced. -/
theorem put (stand' : Handle) : ∃ w', (Handle.put s stand').perform w = (.ok (), w') ∧ w'.StandsIn s stand' ∧
    OnlyAt s [] w w' := by
  obtain ⟨h, hh, -, ha⟩ := hs
  unfold Handle.put
  rw [perform_bind_ok (perform_host hh)]
  exact ⟨_, rfl, ⟨_, Table.get?_set_self hh _, rfl, ha⟩, OnlyAt.host w _⟩

/-- An adapter of a stand-in reads from the response that it will have, and registers with the stand-in. -/
theorem perform_adapter : (Act.adapter s).perform w = (.ok ⟨s, .ofHandle, some .ofHandle⟩, w) := by
  obtain ⟨h, hh, hn, ha⟩ := hs
  have hlooks : Adapter.looksAtHeaders h = false := by
    unfold Adapter.looksAtHeaders
    rw [hn, ha]
    rfl
  have hmake : Adapter.make s h = .ok ⟨s, .ofHandle, some .ofHandle⟩ := by
    unfold Adapter.make Adapter.detectReader Adapter.detectRegistrar
    rw [hn, ha]
    rfl
  unfold Act.adapter
  rw [perform_bind_ok (perform_host hh)]
  simp only [hlooks, Bool.false_eq_true, if_false]
  rw [perform_bind_ok (perform_host hh), hmake, perform_ofExcept]

/-- Who registers with a stand-in waits there. -/
theorem perform_onCompletion (listener : Listener) :
    ∃ w', (Act.onCompletion ⟨s, .ofHandle, some .ofHandle⟩ listener).perform w = (.ok true, w') ∧
      w'.StandsIn s (stand.register listener) ∧ OnlyAt s [] w w' := by
  obtain ⟨h, hh, hn, ha⟩ := hs
  unfold Act.onCompletion
  dsimp only
  rw [perform_bind_ok (perform_host hh), hn, ha]
  exact ⟨_, rfl, ⟨_, Table.get?_set_self hh _, rfl, rfl⟩, OnlyAt.host w _⟩

/-- Binding a stand-in to a response, whose background tells the listeners if there are any. -/
theorem perform_bindAt (r : Response) : ∃ w', (Handle.bindAt s r).perform w = (.ok !stand.listeners.isEmpty, w') ∧
    w'.StandsIn s (stand.bind r) ∧ OnlyAt s [] w w' := by
  obtain ⟨h, hh, -, ha⟩ := id hs
  obtain ⟨w', hput, hstands, honly⟩ := hs.put (stand.bind r)
  refine ⟨w', ?_, hstands, honly⟩
  have hcompletion : Handle.completion h r.background = .completion r.background := by
    unfold Handle.completion
    rw [ha]
    rfl
  have hlisteners : h.attributes.get? "_listeners" = none := by rw [ha]; rfl
  unfold Handle.bindAt
  rw [perform_bind_ok (hs.perform_demandMethod "bind"), perform_bind_ok (perform_host hh),
    perform_bind_ok hs.perform_standIn]
  simp only [hcompletion, hlisteners]
  unfold Handle.bind at hput
  cases hl : stand.listeners.isEmpty <;> rw [hl] at hput <;> exact perform_bind_ok hput _

/-- Telling a stand-in of the completion is telling those who wait there, who do not wait any more then. -/
theorem perform_fire (env : Surroundings) : ∃ w', (Handle.fire env s).perform w =
    (stand.listeners.forM (Handle.notify env [])).perform w' ∧ w'.StandsIn s { stand with listeners := [] } ∧
      OnlyAt s [] w w' := by
  obtain ⟨h, hh, -, ha⟩ := id hs
  have hlisteners : h.attributes.get? "_listeners" = none := by rw [ha]; rfl
  let h' : Host :=
    { h with nature := .handle { stand with listeners := [] }, attributes := h.attributes.erase "_listeners" }
  have hdismiss : (Handle.dismiss s).perform w = (.ok stand.listeners, { w with hosts := w.hosts.set s h' }) := by
    unfold Handle.dismiss
    rw [perform_bind_ok hs.perform_standIn, perform_bind_ok (perform_host hh)]
    simp only [hlisteners]
    rfl
  refine ⟨_, ?_, ⟨h', Table.get?_set_self hh h', rfl, ?_⟩, OnlyAt.host w h'⟩
  · unfold Handle.fire
    rw [perform_bind_ok (hs.perform_demandMethod "fire_completion"), perform_bind_ok hdismiss]
  · show h.attributes.erase "_listeners" = {}
    rw [ha]
    rfl

end StandsIn

end World

end ActivityLog
