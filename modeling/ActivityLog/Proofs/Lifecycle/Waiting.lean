import ActivityLog.Proofs.Host.StandIn
import ActivityLog.Proofs.Lifecycle.Frame
import ActivityLog.Proofs.Lifecycle.Scripts

/-!
# Logs that wait with a stand-in

A request whose response is still to come is logged with a stand-in for it. Hooks and functions that leave stand-ins and
requests in service (`Surroundings.Harmless`) do not keep the log from its completion.

- `Pipeline.start_standsIn`: an arrival either fails and leaves the stand-in without a listener, or its log waits there.
- `Lifecycle.perform_complete_of_takes`: as long as the request takes the record back, the completion does not fail.
-/

namespace ActivityLog

open Act

/-- Logs keep their states, and hosts stay in service. -/
structure Aloof (fs : FieldFunction → Prop) (w w' : World) : Prop extends Steady fs none w w' where
  intact : ∀ s, Intact s w w'

/-- Hooks and functions of `fs` leave logs to the pipeline, and hosts in service; the core's helpers may be put on a
request, but not on the stand-in for its response. -/
structure Surroundings.Harmless (env : Surroundings) (fs : FieldFunction → Prop) : Prop extends env.Discreet fs where
  init : ∀ s c, Keeps (Intact s) (env.core c).initLog
  bind : ∀ s c target, target ≠ s → Keeps (Intact s) ((env.core c).bindLogFunctions target)
  write : ∀ s c record w, Intact s w ((env.core c).writeStaticFields record w).2.2
  send : ∀ s c level record, Keeps (Intact s) ((env.core c).sendLog level record)
  function : ∀ s parties f, fs f → ∀ record w, Intact s w (env.call parties f record w).2.2

variable {env : Surroundings} {fs : FieldFunction → Prop} {w w' : World} {s q id : Nat} {l : Lifecycle} {p : Pipeline}

instance : IsPreorder World (Aloof fs) where
  refl w := ⟨refl_of (Steady fs none) w, fun s => refl_of (Intact s) w⟩
  trans _ _ _ h h' := ⟨h.toSteady.trans h'.toSteady, fun s => trans_of (Intact s) (h.intact s) (h'.intact s)⟩

/-- A log is walked without harm to stand-ins. -/
theorem Surroundings.Harmless.frames (h : env.Harmless fs) (s : Nat) : env.Frames fs (Intact s) where
  seen _ _ _ name hh := .seen hh name
  diagnostics := Intact.diagnostics
  setLog _ _ _ := .of_hosts fun _ => rfl
  addLog _ _ := .of_hosts fun _ => rfl
  withRecord _ _ _ := .of_hosts fun _ => rfl
  noted _ _ := .of_hosts fun _ => rfl
  call := h.function s

/-! ## Arrivals -/

/-- Without a response there is nothing to be looked at. -/
theorem Intact.standsIn (h : Intact s w w') {listeners : List Listener} (hs : w.StandsIn s { listeners }) :
    w'.StandsIn s { listeners } := by
  rcases h.standIn _ hs with hsame | hlooked
  · exact hsame
  · exact hlooked

namespace Pipeline

/-- The fields of arrival, the record on the request and the core's helpers leave another host's stand-in alone. -/
theorem intact_arrive (h : env.Harmless fs) (hw : w.Calls fs) (hl : w.lifecycles.get? id = some l)
    (hne : l.request.target ≠ s) : Intact s w ((arrive env.watched id).perform w).2 := by
  refine Keeps.bind_of w ((h.frames s).resolvePre hw id) fun _ _ => ?_
  have hquiet : Quiet fs (some id) w ((Lifecycle.resolvePre env.watched id).perform w).2 :=
    Lifecycle.quiet_resolvePre h.toDiscreet hw
  generalize ((Lifecycle.resolvePre env.watched id).perform w).2 = v at hquiet
  obtain ⟨record, state, hl', -⟩ := hquiet.lifecycles id l hl
  rw [perform_bind_ok (perform_lifecycle hl')]
  refine Keeps.bind (R := Intact s) (Intact.writeField hne (by decide) _) (fun _ => ?_) v
  exact Keeps.bind (Keeps.pipeline _) fun p => h.bind s p.core _ hne

/-- **From the creation of its log on an arrival ends with a log that waits with the stand-in**, whatever fails in
it. -/
theorem begin_standsIn (h : env.Harmless fs) (hw : w.Calls fs) (hs : w.StandsIn s {})
    (hl : w.lifecycles.get? id = some l) (hresponse : l.response = ⟨s, .ofHandle, some .ofHandle⟩)
    (hne : l.request.target ≠ s) :
    ∃ w', (begin env.watched id).perform w = (.ok id, w') ∧ w'.StandsIn s { listeners := [.lifecycle id] } ∧
      (∀ n, n ≠ s → w.Takes n → w'.Takes n) ∧
      ∃ record, w'.lifecycles.get? id = some { l with record, state := .awaitingCompletion } := by
  obtain ⟨ds, hafter⟩ := (arrive env.watched id).after_eq .preResolutionFailed w
  have harrived : Quiet fs (some id) w { ((arrive env.watched id).perform w).2 with diagnostics := ds } :=
    trans_of (Quiet fs (some id)) (quiet_arrive h.toDiscreet hw id) (Quiet.diagnostics _ ds)
  have hintact : Intact s w { ((arrive env.watched id).perform w).2 with diagnostics := ds } :=
    trans_of (Intact s) (intact_arrive h hw hl hne) (Intact.diagnostics _ ds)
  rw [perform_begin, hafter]
  generalize ({ ((arrive env.watched id).perform w).2 with diagnostics := ds } : World) = v at harrived hintact
  obtain ⟨record, state, hrow, -⟩ := harrived.lifecycles id l hl
  obtain ⟨v', hregistered, hstands, honly⟩ := (hintact.standsIn hs).perform_onCompletion (.lifecycle id)
  have hstill := honly.still
  have hrow' := (hstill.logs id).trans hrow
  let l' : Lifecycle := { l with record, state := .awaitingCompletion }
  refine ⟨{ v' with lifecycles := v'.lifecycles.set id l' }, ?performed, hstands, fun n hn ht => ?takes, record,
    Table.get?_set_self hrow' l'⟩
  case takes =>
    have ht' : v'.Takes n := (hintact.takes n ht).still hstill (by simpa using hn)
    exact ht'
  case performed =>
    unfold Lifecycle.awaitCompletion
    rw [bind_assoc, perform_bind_ok (perform_lifecycle hrow)]
    simp only [hresponse]
    rw [bind_assoc, perform_bind_ok hregistered, bind_assoc, perform_bind_ok (perform_lifecycle hrow')]
    rfl

/-- **An arrival with a fresh stand-in** fails and leaves it without a listener, or gives a log that waits there. What
is stored on the request does not fail afterwards if it did not before. -/
theorem start_standsIn (h : env.Harmless fs) (hw : w.Calls fs) (hs : w.StandsIn s {}) (hne : q ≠ s) (pipeline : Nat) :
    ∃ result w', (start env.watched pipeline q s).perform w = (result, w') ∧ (∀ n, n ≠ s → w.Takes n → w'.Takes n) ∧
      ((∃ f, result = .error f) ∧ w'.StandsIn s {} ∨
        ∃ id l, result = .ok id ∧ w'.StandsIn s { listeners := [.lifecycle id] } ∧
          w'.lifecycles.get? id = some l ∧ l.state = .awaitingCompletion ∧ l.pipeline = pipeline ∧
          l.request.target = q ∧ l.response = ⟨s, .ofHandle, some .ofHandle⟩) := by
  have hadapter (n : Nat) : Keeps (Aloof fs) (adapter n) := fun w =>
    ⟨(Keeps.adapter Quiet.host w : Quiet fs none w _).toSteady, fun s => (h.frames s).adapter n w⟩
  have hinit (c : Nat) : Keeps (Aloof fs) (env.watched.core c).initLog := fun w =>
    ⟨(h.initLog c w).toSteady, fun s => h.init s c w⟩
  rcases start_cases (hadapter q) (hadapter s) env.watched pipeline w with
    ⟨⟨f, hf⟩, hkept⟩ | ⟨a, b, w₁, w₂, ha, hb, rfl, -, -, hstart⟩
  · exact ⟨.error f, _, Prod.ext hf rfl, fun n _ => (hkept.intact s).takes n,
      .inl ⟨⟨f, rfl⟩, (hkept.intact s).standsIn hs⟩⟩
  have hkept := hadapter a.target w
  rw [ha] at hkept
  have hs₁ := (hkept.intact s).standsIn hs
  obtain ⟨hmade, rfl⟩ := Prod.mk.inj (hb.symm.trans hs₁.perform_adapter)
  obtain rfl := Except.ok.inj hmade
  rw [hstart]
  rcases startWith_cases hinit pipeline a ⟨s, .ofHandle, some .ofHandle⟩ w₂ with
    ⟨⟨f, hf⟩, hkept'⟩ | ⟨p, record, u, -, hkept', hbegin⟩
  all_goals have hsteps := trans_of (Aloof fs) hkept hkept'
  · exact ⟨.error f, _, Prod.ext hf rfl, fun n _ => (hsteps.intact s).takes n,
      .inl ⟨⟨f, rfl⟩, (hsteps.intact s).standsIn hs⟩⟩
  let l : Lifecycle := ⟨pipeline, a, ⟨s, .ofHandle, some .ofHandle⟩, record, .created⟩
  let v : World := { u with lifecycles := u.lifecycles.add l }
  have hl : v.lifecycles.get? u.lifecycles.next = some l := by rw [Table.get?_add, if_pos rfl]
  obtain ⟨w', hperformed, hstands, htakes, record', hrow⟩ :=
    begin_standsIn (w := v) h (hsteps.calls hw) ((hsteps.intact s).standsIn hs) hl rfl hne
  exact ⟨_, w', hbegin.trans hperformed, fun n hn ht => htakes n hn ((hsteps.intact s).takes n ht),
    .inr ⟨_, _, rfl, hstands, hrow, rfl, rfl, rfl, rfl⟩⟩

end Pipeline

/-! ## Completions -/

/-- **A completion of a log whose request takes the record back** does not fail. It is an attempt to hand the record
over, and hosts stay in service. -/
theorem Lifecycle.perform_complete_of_takes (h : env.Harmless fs) (hw : w.Calls fs) (hl : w.lifecycles.get? id = some l)
    (hs : l.state = .awaitingCompletion) (hp : w.pipelines.get? l.pipeline = some p)
    (htakes : w.Takes l.request.target) :
    ∃ w', (Lifecycle.complete env.watched id).perform w = (.ok (), w') ∧
      w'.emissions = w.emissions ++ l.attempt env id p w ∧
      (∃ record, w'.lifecycles.get? id = some { l with record, state := .emitted }) ∧ w'.Calls fs := by
  obtain ⟨hsteady, hnotes, record, hrow⟩ := Lifecycle.steady_released h.toDiscreet hw hl hp
  have hintact : Intact 0 w (l.released env.watched id p w) :=
    (h.frames 0).released (h.write 0) (h.send 0) hw hp id
  obtain ⟨host, hhost, hnone⟩ := hintact.takes _ htakes
  have hcalls := hsteady.calls hw
  have hquiet : Quiet fs none (l.released env.watched id p w) _ :=
    Quiet.writeField l.request.target recordField (.shared (.record id) true) _
  have hresult := Act.perform_writeField_outcome hhost recordField (.shared (.record id) true)
  rw [hnone] at hresult
  rw [Lifecycle.perform_complete_of_waiting hl hs hp]
  refine ⟨_, Prod.ext hresult rfl, hquiet.emissions.trans hnotes, ?_, hquiet.calls hcalls⟩
  obtain ⟨record', state', hrow', hstate⟩ := hquiet.lifecycles id _ hrow
  obtain rfl := hstate nofun
  exact ⟨record', hrow'⟩

/-! ## Applications -/

/-- A step that concerns no host leaves all of them in service. -/
theorem Still.intact (h : Still {} w w') : Intact s w w' := .of_hosts fun n => h.hosts n List.not_mem_nil

/-- Putting helpers on a request leaves the stand-in for its response alone. -/
theorem Standard.intact_bindLogFunctions (c : Nat) {target : Nat} (hne : target ≠ s) :
    Keeps (Intact s) ((Standard.core c).bindLogFunctions target) := by
  have htouched := Intact.touched (s := s) hne
  refine Standard.keeps_bindLogFunctions c (fun call hcall w => (Standard.still_note call hcall w).intact) ?_
  exact StructuredCore.keeps_bindLogFunctions (fun _ _ ha => .of_hosts fun _ => by rw [ha.hosts])
    (Touching.readStored htouched _) (fun a ha => Touching.readHeader htouched ha _) (Touching.adapter htouched)
    fun name hname v => Intact.writeField hne hname v

/-- **Scripts and built-in functions are harmless**, and so are the cores of an application. -/
theorem Application.harmless : surroundings.Harmless FieldFunction.IsPlain where
  toDiscreet := by
    refine Standard.discreet rfl fun parties f hf record w => ?_
    obtain ⟨_, _, _, _, hdrawn, -⟩ := Application.drawn_of_isPlain parties hf record w
    rw [hdrawn]
    exact Quiet.of_same rfl rfl rfl
  init s c w := (Standard.still_initLog c w).intact
  bind s c target hne := Standard.intact_bindLogFunctions c hne
  write s c record w := (Standard.still_writeStaticFields c record w).intact
  send s c level record w := (Standard.still_sendLog c level record w).intact
  function s parties f hf record w := by
    obtain ⟨hosts, _, _, _, hdrawn, hlook⟩ := Application.drawn_of_isPlain parties hf record w
    rw [hdrawn]
    rcases hlook with rfl | ⟨n, name, rfl⟩
    · exact .of_hosts fun _ => rfl
    · refine trans_of (Intact s) (Intact.look w n name) ?_
      exact .of_hosts fun _ => rfl

end ActivityLog
