import ActivityLog.Proofs.Pass.Course
import ActivityLog.Proofs.Traffic.Attribution

/-!
# No absent value reaches the log

A state is `Spotless` if all pipelines have structured cores, and no absent value is in their overrides, in the record
of a log, or in what was handed over so far. Events lead from such states to such states (`Event.step_spotless`), as
long as functions do, and leave no absent value in the record that they get (`Surroundings.Tidy`). So it is with a whole
run, and with every record that a log goes through in it (`run_clean`): after each step of its pre pass and of its post
pass, and after each override (`Event.GoesThrough`).
-/

namespace ActivityLog

open Act OrderedMap

/-- The record of a call with a record. -/
def Emission.record : Emission → Record
  | .overriding record => record
  | .sending _ record => record

variable {env : Surroundings} {fs : FieldFunction → Prop} {w w' w₀ : World} {id : Nat} {l : Lifecycle} {p : Pipeline}
  {record overrides : Record}

/-! ## Spotless states -/

/-- No absent value is in records, in overrides, or in what was handed over; pipelines have structured cores, and call
functions of `fs` only. -/
structure World.Spotless (fs : FieldFunction → Prop) (w : World) : Prop where
  calls : w.Calls fs
  overrides : ∀ n p, w.pipelines.get? n = some p →
    ∃ overrides, w.overridesOf? p.core = some overrides ∧ overrides.WellFormed ∧ overrides.Clean
  records : ∀ id l, w.lifecycles.get? id = some l → l.record.Clean
  emissions : ∀ e ∈ w.emissions, e.record.Clean

/-- A spotless state stays so. -/
def StaysSpotless (fs : FieldFunction → Prop) (w w' : World) : Prop := w.Spotless fs → w'.Spotless fs

instance : IsPreorder World (StaysSpotless fs) where
  refl _ hw := hw
  trans _ _ _ h h' hw := h' (h hw)

namespace World.Spotless

/-- A step that concerns no log leaves a state spotless if it does so with the overrides. -/
theorem of_still {s : Scope} (hw : w.Spotless fs) (h : Still s w w') (ho : ∀ n p, w.pipelines.get? n = some p →
    ∃ overrides, w'.overridesOf? p.core = some overrides ∧ overrides.WellFormed ∧ overrides.Clean) :
    w'.Spotless fs := by
  refine ⟨h.quiet.calls hw.calls, fun n p hp => ?_, fun id l hl => ?_, fun e he => ?_⟩
  · rw [h.pipelines] at hp
    exact ho n p hp
  · rw [h.logs] at hl
    exact hw.records id l hl
  · rw [h.emissions] at he
    exact hw.emissions e he

theorem setLifecycle (hw : w.Spotless fs) (id : Nat) (hl : l.record.Clean) :
    ({ w with lifecycles := w.lifecycles.set id l } : World).Spotless fs := by
  refine { hw with records := fun n l' hl' => ?_ }
  rw [Table.get?_set] at hl'
  split at hl'
  · obtain ⟨_, -, rfl⟩ := Option.map_eq_some_iff.1 hl'
    exact hl
  · exact hw.records n l' hl'

theorem addLifecycle (hw : w.Spotless fs) (hl : l.record.Clean) :
    ({ w with lifecycles := w.lifecycles.add l } : World).Spotless fs := by
  refine { hw with records := fun n l' hl' => ?_ }
  rw [Table.get?_add] at hl'
  split at hl'
  · obtain rfl := Option.some.inj hl'
    exact hl
  · exact hw.records n l' hl'

theorem withRecord (hw : w.Spotless fs) (id : Nat) (hrecord : record.Clean) : (w.withRecord id record).Spotless fs := by
  refine { hw with records := fun n l' hl' => ?_ }
  have hmod := (Table.get?_modify w.lifecycles id n fun l => { l with record }).symm.trans hl'
  split at hmod
  · obtain ⟨_, -, rfl⟩ := Option.map_eq_some_iff.1 hmod
    exact hrecord
  · exact hw.records n l' hmod

theorem noted (hw : w.Spotless fs) {e : Emission} (he : e.record.Clean) : (w.noted e).Spotless fs := by
  refine { hw with emissions := fun x hx => ?_ }
  rw [World.emissions_noted, List.mem_append, List.mem_singleton] at hx
  rcases hx with hx | rfl
  · exact hw.emissions x hx
  · exact he

theorem diagnostics (hw : w.Spotless fs) (ds : List Diagnostic) :
    ({ w with diagnostics := ds } : World).Spotless fs := { hw with }

theorem host (hw : w.Spotless fs) (n : Nat) (h : Host) : ({ w with hosts := w.hosts.set n h } : World).Spotless fs :=
  { hw with }

end World.Spotless

/-- What concerns hosts only leaves a state spotless. -/
theorem Still.staysSpotless {hosts : List Nat} (h : Still { hosts } w w') : StaysSpotless fs w w' := by
  intro hw
  refine hw.of_still h fun n p hp => ?_
  rw [h.overrides p.core (Option.some_ne_none _).symm]
  exact hw.overrides n p hp

namespace StaysSpotless

theorem writeField (n : Nat) (name : String) (v : Value) : Keeps (StaysSpotless fs) (Act.writeField n name v) :=
  Keeps.writeField (fun _ host hs => hs.host n host) (fun _ ds hs => hs.diagnostics ds) name v

theorem awaitCompletion (id : Nat) : Keeps (StaysSpotless fs) (Lifecycle.awaitCompletion id) := by
  refine Keeps.bind (Keeps.lifecycle id) fun l => ?_
  refine Keeps.bind (Keeps.onCompletion (fun _ host hs => hs.host _ host) (fun _ ds hs => hs.diagnostics ds) rfl _)
    fun _ => fun w hw => ?_
  exact lifecycle_bind_cases hw fun l hl => hw.setLifecycle id (hw.records id l hl)

end StaysSpotless

/-- **Overriding a field leaves a state spotless**, also with an absent value: that takes the override away. -/
theorem Standard.staysSpotless_overrideField (c : Nat) (name : String) (value : Value) :
    Keeps (StaysSpotless fs) ((core c).overrideField name value) := by
  intro w hw
  have hstill := still_overrideField c name value w
  refine hw.of_still hstill fun n p hp => ?_
  obtain ⟨overrides, ho, hwf, hclean⟩ := hw.overrides n p hp
  by_cases hcore : c = p.core
  · subst hcore
    exact ⟨_, (perform_overrideField ho name value).2, wellFormed_store hwf name value, hclean.store name value⟩
  · rw [hstill.overrides p.core fun h => hcore (Option.some.inj h)]
    exact ⟨overrides, ho, hwf, hclean⟩

/-! ## What a log goes through -/

namespace Lifecycle

/-- The records that a log goes through in the pass of a phase. -/
def course (env : Surroundings) (id : Nat) (phase : Phase) (p : Pipeline) (l : Lifecycle) (w : World) : List Record :=
  passCourse (env.surface l.request l.response (some id)) phase (p.config.phase phase) l.record w

/-- The records that a record goes through as the overrides of a pipeline's core are written on it, one after the
other. -/
def overlaid (p : Pipeline) (record : Record) (w : World) : List Record :=
  ((w.overridesOf? p.core).getD {}).entries.scanl (fun r e => r.insert e.1 e.2) record

end Lifecycle

/-- The records that the log of an event goes through: on its arrival those of the pre pass, on its completion those of
the post pass, and then those as fields are overridden. -/
inductive Event.GoesThrough (env : Surroundings) (w : World) : Event → Record → Prop
  | arriving {pipeline q r id : Nat} {v : World} {l : Lifecycle} {p : Pipeline} {record : Record}
      (opened : (Pipeline.opened env pipeline q r).perform w = (.ok id, v)) (log : v.lifecycles.get? id = some l)
      (served : v.pipelines.get? l.pipeline = some p) (step : record ∈ l.course env id .pre p v) :
      GoesThrough env w (.start pipeline q r) record
  | completing {id : Nat} {arguments : List Value} {l : Lifecycle} {p : Pipeline} {record : Record}
      (log : w.lifecycles.get? id = some l) (waits : l.state = .awaitingCompletion)
      (served : w.pipelines.get? l.pipeline = some p) (step : record ∈ l.course env id .post p w) :
      GoesThrough env w (.completion id arguments) record
  | overriding {id : Nat} {arguments : List Value} {l : Lifecycle} {p : Pipeline} {record : Record}
      (log : w.lifecycles.get? id = some l) (waits : l.state = .awaitingCompletion)
      (served : w.pipelines.get? l.pipeline = some p)
      (step : record ∈ Lifecycle.overlaid p (l.passed env id .post p.config w).record (l.resolved env id .post p w)) :
      GoesThrough env w (.completion id arguments) record

/-- Overrides without an absent value bring none into a record. -/
theorem Lifecycle.overlaid_clean (ho : w.overridesOf? p.core = some overrides) (hwf : overrides.WellFormed)
    (hclean : overrides.Clean) (hrecord : record.Clean) : ∀ r ∈ Lifecycle.overlaid p record w, r.Clean := by
  rw [Lifecycle.overlaid, ho]
  refine forall_mem_scanl hrecord fun r hr e he => hr.insert e.1 fun hnull => ?_
  exact hclean e.1 (hnull ▸ get?_of_mem hwf he)

/-- The last of these is the record with the overrides on top. -/
theorem Lifecycle.getLast?_overlaid (ho : w.overridesOf? p.core = some overrides) (record : Record) :
    (Lifecycle.overlaid p record w).getLast? = some (record.insertAll overrides.entries) := by
  rw [Lifecycle.overlaid, ho, List.getLast?_scanl]
  rfl

/-! ## Functions that leave no absent value -/

/-- The cores are those of the application. Functions of `fs` leave no absent value in a record without one, they leave
spotless states spotless, and pipelines where they are. -/
structure Surroundings.Tidy (env : Surroundings) (fs : FieldFunction → Prop) : Prop where
  core : env.core = Standard.core
  record : ∀ parties f, fs f → ∀ record w, record.Clean → w.Spotless fs → (env.call parties f record w).2.1.Clean
  state : ∀ parties f, fs f → ∀ record w, record.Clean → w.Spotless fs → (env.call parties f record w).2.2.Spotless fs
  pipelines : ∀ parties f, fs f → ∀ record w n p, w.pipelines.get? n = some p →
    (env.call parties f record w).2.2.pipelines.get? n = some p

namespace Surroundings.Tidy

theorem surface (h : env.Tidy fs) {ds : List Descriptor} (hds : ∀ f ∈ functionsOf ds, fs f) (a b : Adapter) (id n : Nat)
    (p : Pipeline) :
    (env.surface a b (some id)).Tidy (fun w => w.Spotless fs ∧ w.pipelines.get? n = some p) (functionsOf ds) where
  header _ _ _ hs := ⟨hs.1.host _ _, hs.2⟩
  field _ _ _ hs := ⟨hs.1.host _ _, hs.2⟩
  heard _ hs := ⟨hs.1.diagnostics _, hs.2⟩
  call f hf record _ hrecord hs :=
    have hs' := hs.1.withRecord id hrecord
    ⟨h.record _ f (hds f hf) record _ hrecord hs', h.state _ f (hds f hf) record _ hrecord hs',
      h.pipelines _ f (hds f hf) record _ n p hs.2⟩

/-- **A pass of a log brings no absent value into its record**, at no step, and leaves the state spotless. -/
theorem course (h : env.Tidy fs) (hw : w.Spotless fs) (hl : w.lifecycles.get? id = some l)
    (hp : w.pipelines.get? l.pipeline = some p) (phase : Phase) :
    (∀ r ∈ l.course env id phase p w, r.Clean) ∧ (l.passed env id phase p.config w).record.Clean ∧
      (l.resolved env id phase p w).Spotless fs ∧
      (l.resolved env id phase p w).pipelines.get? l.pipeline = some p := by
  have hsurface := h.surface (hw.calls _ p hp phase) l.request l.response id l.pipeline p
  obtain ⟨hcourse, hclean, hstate, hstays⟩ := hsurface.passCourse phase (hw.records id l hl) ⟨hw, hp⟩
  exact ⟨hcourse, hclean, (hstate.diagnostics _).setLifecycle id hclean, hstays⟩

/-! ## Arrivals -/

theorem opened (h : env.Tidy fs) (pipeline q r : Nat) :
    Keeps (StaysSpotless fs) (Pipeline.opened env.watched pipeline q r) := by
  have hadapter (n : Nat) : Keeps (StaysSpotless fs) (adapter n) := Keeps.adapter fun _ host hs => hs.host n host
  refine Keeps.bind (hadapter q) fun a => Keeps.bind (hadapter r) fun b => fun w hw => ?_
  refine pipeline_bind_cases hw fun p hp => ?_
  obtain ⟨overrides, ho, -⟩ := hw.overrides pipeline p hp
  have hinit : ((env.watched.core p.core).initLog).perform w = (.ok {}, w) := by
    rw [Standard.core_watched h.core]
    exact Standard.perform_initLog (Option.isSome_of_eq_some ho)
  rw [perform_bind_ok hinit]
  exact hw.addLifecycle fun _ => nofun

theorem arrive (h : env.Tidy fs) (id : Nat) : Keeps (StaysSpotless fs) (Pipeline.arrive env.watched id) := by
  have hresolve : Keeps (StaysSpotless fs) (Lifecycle.resolvePre env.watched id) := fun w hw =>
    lifecycle_bind_cases hw fun l hl => pipeline_bind_cases hw fun p hp => (h.course hw hl hp .pre).2.2.1
  refine Keeps.bind hresolve fun _ => Keeps.bind (Keeps.lifecycle id) fun l => ?_
  refine Keeps.bind (StaysSpotless.writeField _ _ _) fun _ => Keeps.bind (Keeps.pipeline _) fun p => ?_
  rw [Standard.core_watched h.core]
  exact (Standard.still_bindLogFunctions p.core l.request.target).mono fun _ _ hs => hs.staysSpotless

/-- **An arrival leaves a state spotless.** -/
theorem start (h : env.Tidy fs) (pipeline q r : Nat) :
    Keeps (StaysSpotless fs) (Pipeline.start env.watched pipeline q r) := by
  rw [Pipeline.start_eq]
  refine Keeps.bind (h.opened pipeline q r) fun id => fun w hw => ?_
  obtain ⟨ds, hafter⟩ := (Pipeline.arrive env.watched id).after_eq .preResolutionFailed w
  rw [Pipeline.perform_begin, hafter]
  exact Keeps.bind (StaysSpotless.awaitCompletion id) (fun _ => Keeps.pure id) _ ((h.arrive id w hw).diagnostics ds)

/-! ## Completions -/

/-- Handing a record without an absent value over leaves it and the state so. -/
theorem emit (h : env.Tidy fs) (hw : w.Spotless fs) {n : Nat} (hp : w.pipelines.get? n = some p)
    (hrecord : record.Clean) (id : Nat) :
    ((Lifecycle.emit env.watched p (some id) record).run w).1.2.Clean ∧
      ((Lifecycle.emit env.watched p (some id) record).run w).2.Spotless fs := by
  obtain ⟨overrides, ho, hwf, hclean⟩ := hw.overrides n p hp
  have hover : (w.noted (.overriding record)).Spotless fs := hw.noted hrecord
  have hnoted : (w.noted (.overriding record)).overridesOf? p.core = some overrides := ho
  have hwritten : (env.watched.core p.core).writeStaticFields record w =
      (.ok (), record.insertAll overrides.entries, w.noted (.overriding record)) := by
    rw [Standard.core_watched h.core]
    exact Standard.writeStaticFields_eq hnoted record
  have hsent : (record.insertAll overrides.entries).Clean :=
    Lifecycle.overlaid_clean ho hwf hclean hrecord _ (List.mem_of_getLast? (Lifecycle.getLast?_overlaid ho record))
  have hsend := Standard.still_sendLog (s := {}) p.core p.level (record.insertAll overrides.entries)
  rw [Lifecycle.run_emit, hwritten, Standard.core_watched h.core]
  exact ⟨hsent, (hsend _).staysSpotless ((hover.withRecord id hsent).noted hsent)⟩

theorem released (h : env.Tidy fs) (hw : w.Spotless fs) (hl : w.lifecycles.get? id = some l)
    (hp : w.pipelines.get? l.pipeline = some p) : (l.released env.watched id p w).Spotless fs := by
  obtain ⟨-, hclean, hresolved, hstays⟩ := h.course hw hl hp .post
  have hpassed : (l.passed env.watched id .post p.config w).record.Clean := hclean
  have hstate : (l.resolved env.watched id .post p w).Spotless fs := hresolved
  obtain ⟨hsent, hemitted⟩ := h.emit hstate hstays hpassed id
  unfold Lifecycle.released
  dsimp only
  generalize (Lifecycle.emit env.watched p (some id) _).run _ = out at hsent hemitted
  let l' : Lifecycle := { l with record := out.1.2, state := .emitted }
  have hl' : l'.record.Clean := hsent
  exact (hemitted.setLifecycle id hl').diagnostics _

/-- **A completion leaves a state spotless.** -/
theorem complete (h : env.Tidy fs) (id : Nat) : Keeps (StaysSpotless fs) (Lifecycle.complete env.watched id) := by
  intro w hw
  refine Lifecycle.complete_cases id hw hw.diagnostics fun l p hl hp => ?_
  exact StaysSpotless.writeField _ _ _ _ (h.released hw hl hp)

end Surroundings.Tidy

/-! ## Runs -/

/-- **An event leaves a state spotless.** -/
theorem Event.step_spotless (h : env.Tidy fs) (hw : w.Spotless fs) (e : Event) :
    (e.step env.watched w).Spotless fs := by
  have hstill (he : e.asksCore = true) : Still (e.scope w) w (e.step env.watched w) := step_still h.core he w
  cases e with
  | start pipeline q r => exact h.start pipeline q r w hw
  | completion id arguments => exact h.complete id w hw
  | override c name value =>
    show (((env.watched.core c).overrideField name value).perform w).2.Spotless fs
    rw [Standard.core_watched h.core]
    exact Standard.staysSpotless_overrideField c name value w hw
  | _ => exact (hstill rfl).staysSpotless hw

/-- No record that the log of an event goes through holds an absent value. -/
theorem Event.GoesThrough.clean (h : env.Tidy fs) (hw : w.Spotless fs) {e : Event}
    (hrecord : e.GoesThrough env.watched w record) : record.Clean := by
  cases hrecord with
  | @arriving pipeline q r id v l p _ opened log served step =>
    have hv := h.opened pipeline q r w hw
    rw [opened] at hv
    exact (h.course hv log served .pre).1 record step
  | completing log waits served step => exact (h.course hw log served .post).1 record step
  | overriding log waits served step =>
    obtain ⟨-, hclean, hresolved, hstays⟩ := h.course hw log served .post
    obtain ⟨overrides, ho, hwf, hnone⟩ := hresolved.overrides _ _ hstays
    exact Lifecycle.overlaid_clean ho hwf hnone hclean record step

/-- What a log hands over on its completion is the last record of its post pass, and then the last one of those as
fields are overridden. -/
theorem Lifecycle.attempt_eq (h : env.Tidy fs) (hw : w.Spotless fs) (hl : w.lifecycles.get? id = some l)
    (hp : w.pipelines.get? l.pipeline = some p) :
    ∃ record sent, l.attempt env id p w = [.overriding record, .sending p.level sent] ∧
      (l.course env id .post p w).getLast? = some record ∧
      (Lifecycle.overlaid p record (l.resolved env id .post p w)).getLast? = some sent := by
  obtain ⟨-, -, hresolved, hstays⟩ := h.course hw hl hp .post
  obtain ⟨overrides, ho, -⟩ := hresolved.overrides _ _ hstays
  exact ⟨_, _, Lifecycle.handedOver_eq h.core ho _, getLast?_passCourse _ _ _ _ _, Lifecycle.getLast?_overlaid ho _⟩

/-- A run leaves a state spotless. -/
theorem run_spotless (h : env.Tidy fs) (hw : w.Spotless fs) (es : List Event) : (run env.watched es w).Spotless fs := by
  induction es generalizing w with
  | nil => exact hw
  | cons e es ih => exact ih (e.step_spotless h hw)

/-- **No absent value reaches the log.** Let pipelines have any fields over structured cores, and let functions be such
that they leave no absent value in a record without one; they may give absent values, fail, write other values into the
record and take fields out. After any events, overrides among them,

- the state is spotless: no absent value is in the record of a log or in the overrides;
- whatever happens next, the log that it is about goes through records without an absent value only: after each step of
  the pre pass, of the post pass, and as overrides are written one after the other;
- a log that is completed hands over the last of these;
- no absent value is in a record that was handed over. -/
theorem run_clean (h : env.Tidy fs) (hw : w₀.Spotless fs) (es : List Event) :
    let w := run env.watched es w₀
    w.Spotless fs ∧
    (∀ e record, Event.GoesThrough env.watched w e record → record.Clean) ∧
    (∀ id l p, w.lifecycles.get? id = some l → w.pipelines.get? l.pipeline = some p →
      ∃ record sent, l.attempt env id p w = [.overriding record, .sending p.level sent] ∧
        (l.course env id .post p w).getLast? = some record ∧
        (Lifecycle.overlaid p record (l.resolved env id .post p w)).getLast? = some sent) ∧
    ∀ e ∈ w.emissions, e.record.Clean := by
  intro w
  have hrun : w.Spotless fs := run_spotless h hw es
  refine ⟨hrun, fun e record hrecord => hrecord.clean h hrun, fun id l p hl hp => ?_, hrun.emissions⟩
  exact Lifecycle.attempt_eq h hrun hl hp

/-! ## Scripts and built-in functions -/

/-- The script writes an absent value into the record. -/
def Script.storesAbsent : Script Value → Bool
  | .set _ value _ => (value.getD .null).isNull
  | _ => false

/-- The function is a script that writes no absent value into the record, or a built-in one. -/
def FieldFunction.IsTidy (f : FieldFunction) : Prop :=
  (∃ s : Script Value, f = .script s ∧ s.storesAbsent = false) ∨ ∃ g : Builtin, f = g.toFunction

theorem FieldFunction.IsTidy.isPlain {f : FieldFunction} (hf : f.IsTidy) : f.IsPlain :=
  hf.imp_left fun ⟨s, hs, _⟩ => ⟨s, hs⟩

theorem Script.clean_run {s : Script Value} (hs : s.storesAbsent = false) (parties : Parties) (hrecord : record.Clean)
    (w : World) : (s.run parties record w).2.1.Clean := by
  cases s with
  | set name value result => exact hrecord.insert name (Value.isNull_eq_false_iff.1 hs)
  | pop name => exact hrecord.store name .null
  | _ => exact hrecord

/-- **Scripts that write no absent value are tidy, and so are built-in functions.** -/
theorem Application.tidy : surroundings.Tidy FieldFunction.IsTidy where
  core := rfl
  record := by
    rintro parties _ (⟨s, rfl, hs⟩ | ⟨g, rfl⟩) record w hrecord -
    · exact s.clean_run hs parties hrecord w
    · cases g <;> exact hrecord
  state parties f hf record w _ hw := by
    obtain ⟨hosts, clock, serial, counter, hdrawn, -⟩ := drawn_of_isPlain parties hf.isPlain record w
    rw [hdrawn]
    exact { hw with }
  pipelines parties f hf record w n p hp := by
    obtain ⟨hosts, clock, serial, counter, hdrawn, -⟩ := drawn_of_isPlain parties hf.isPlain record w
    rw [hdrawn]
    exact hp

/-- A pipeline with fields that come to nothing, and functions that write to the record and take from it. -/
def gapped : Pipeline :=
  { core := 0
    config := {
      pre := [⟨"method", .special, true, .null, some (.script (.ofRequest "method"))⟩,
        ⟨"trace", .time (some (.script (.set "span" (some (.int 1)) none))) none, false, .null, none⟩,
        ⟨"user", .header "x-user", false, .null, none⟩]
      post := [⟨"status", .field "status", true, .null, none⟩,
        ⟨"verb", .time none (some (.script (.pop "method"))), false, .null, none⟩,
        ⟨"who", .self "user", false, .null, none⟩] }
    level := .text "info" }

/-- An application with that pipeline, over a structured core without overrides. -/
def sparse : World := { rush with pipelines := ⟨[gapped]⟩ }

theorem spotless_sparse : sparse.Spotless FieldFunction.IsTidy := by
  refine ⟨?_, ?_, fun id l hl => (by cases hl), fun e he => absurd he List.not_mem_nil⟩
  · rintro n p hp phase f hf
    cases n with
    | succ n => cases hp
    | zero =>
      cases hp
      cases phase with
      | pre =>
        have hpre : f ∈ ([.script (.ofRequest "method"), .script (.set "span" (some (.int 1)) none)] : List _) := hf
        rcases List.mem_cons.1 hpre with rfl | hpre
        · exact .inl ⟨_, rfl, rfl⟩
        · exact .inl ⟨_, List.mem_singleton.1 hpre, rfl⟩
      | post => exact .inl ⟨_, List.mem_singleton.1 hf, rfl⟩
  · rintro n p hp
    cases n with
    | succ n => cases hp
    | zero =>
      cases hp
      exact ⟨{}, rfl, wellFormed_empty, fun _ => nofun⟩

/-- A request that waits at that pipeline, and what will be handed over for it. What gave nothing leaves nothing:
neither the header that is missing and the reference to it, nor the method that is taken out, nor the override that was
taken away. -/
theorem run_clean_sparse :
    let env := Application.surroundings
    let w := run env.watched [.override 0 "layer" (.text "edge"), .override 0 "zone" (.text "eu"), .start 0 0 1,
      .override 0 "layer" .null] sparse
    env.Tidy FieldFunction.IsTidy ∧ sparse.Spotless FieldFunction.IsTidy ∧
    ∃ l record sent, w.lifecycles.get? 0 = some l ∧ l.state = .awaitingCompletion ∧
      l.attempt env 0 gapped w = [.overriding record, .sending (.text "info") sent] ∧
      record.keys = ["span", "status", "verb"] ∧ sent.keys = ["span", "status", "verb", "zone"] ∧
      record.Clean ∧ sent.Clean := by
  intro env w
  obtain ⟨hrun, hsteps, -, -⟩ := run_clean Application.tidy spotless_sparse [.override 0 "layer" (.text "edge"),
    .override 0 "zone" (.text "eu"), .start 0 0 1, .override 0 "layer" .null]
  change w.Spotless FieldFunction.IsTidy at hrun
  change ∀ e record, Event.GoesThrough env.watched w e record → record.Clean at hsteps
  have hcalls : sparse.Calls FieldFunction.IsPlain := fun n p hp phase f hf =>
    (spotless_sparse.calls n p hp phase f hf).isPlain
  have hp : w.pipelines.get? 0 = some gapped := (run_pipelines Application.unaware.discreet hcalls _).2 0 gapped rfl
  have hwaits : (w.lifecycles.get? 0).map (fun l => (l.pipeline, l.state)) = some (0, .awaitingCompletion) := by
    decide +kernel
  have hkeys : (w.lifecycles.get? 0).map (fun l => (l.attempt env 0 gapped w).map fun e => e.record.keys) =
      some [["span", "status", "verb"], ["span", "status", "verb", "zone"]] := by
    decide +kernel
  clear_value w
  obtain ⟨l, hl, hwaits⟩ := Option.map_eq_some_iff.1 hwaits
  obtain ⟨hpipeline, hwaits⟩ := Prod.mk.inj hwaits
  rw [← hpipeline] at hp
  obtain ⟨record, sent, hattempt, hrecord, hsent⟩ := Lifecycle.attempt_eq Application.tidy hrun hl hp
  rw [hl, Option.map_some, hattempt] at hkeys
  obtain ⟨hkeys, hrest⟩ := List.cons.inj (Option.some.inj hkeys)
  have hpassed : (l.course env 0 .post gapped w).getLast? = some (l.passed env 0 .post gapped.config w).record :=
    getLast?_passCourse _ _ _ _ _
  obtain rfl := Option.some.inj (hrecord.symm.trans hpassed)
  refine ⟨Application.tidy, spotless_sparse, l, _, sent, hl, hwaits, hattempt, hkeys, (List.cons.inj hrest).1, ?_, ?_⟩
  · exact hsteps (.completion 0 []) _ (.completing hl hwaits hp (List.mem_of_getLast? hrecord))
  · exact hsteps (.completion 0 []) sent (.overriding hl hwaits hp (List.mem_of_getLast? hsent))

end ActivityLog
