import ActivityLog.Proofs.Pass.References
import Mathlib.Data.List.Induction

/-!
# Waiting for a fallback while another field supplies the value

A mandatory field without a value and a default waits for its fallback to the end of the sweep. Its place in the queue
is kept even if a later field of the same name comes by a value.

- A name waits at the end of a sweep just if some field of that name had to wait at its turn (`Sweep.run_queued_iff`).
- It then holds a value just if after that field the last one of the name was supplied with one
  (`Sweep.run_supplied_iff`). With different names this cannot be.
- What the fallback gives takes the place of that value, and where there is no fallback the name is noted as missing
  all the same (`resolvePass_waiting_held_iff`).
-/

namespace ActivityLog

open OrderedMap

variable {σ : Type} {env : Surface σ} {phase : Phase} {d : Descriptor} {ds : List Descriptor} {record : Record} {s : σ}
  {name : String}

namespace Sweep

variable {sw : Sweep σ}

/-! ## One turn -/

/-- The field has to wait at its turn: it is mandatory, has no default, and its source leaves it without a value. -/
structure WaitsAt (env : Surface σ) (phase : Phase) (sw : Sweep σ) (d : Descriptor) : Prop where
  ordinary : ¬d.source.IsSelf
  mandatory : d.mandatory = true
  bare : d.default = .null
  absent : (written env phase sw d).value d.name = .null

/-- The field is supplied at its turn: its source leaves it with a value, or it is mandatory and has a default. -/
structure SuppliedAt (env : Surface σ) (phase : Phase) (sw : Sweep σ) (d : Descriptor) : Prop where
  ordinary : ¬d.source.IsSelf
  given : (written env phase sw d).value d.name ≠ .null ∨ d.mandatory = true ∧ d.default ≠ .null

/-- A field that is supplied does not have to wait. -/
theorem SuppliedAt.not_waitsAt (h : SuppliedAt env phase sw d) : ¬WaitsAt env phase sw d := fun hw =>
  h.given.elim (fun hvalue => hvalue hw.absent) fun hdefault => hdefault.2 hw.bare

section Turn

variable (hspares : env.Spares d.functions) (hself : ¬d.source.IsSelf)
include hspares hself

/-- After the turn of a field its name holds a value just if the field was supplied. -/
theorem step_value_ne_null_iff :
    (step env phase sw d).record.value d.name ≠ .null ↔ SuppliedAt env phase sw d := by
  have hiff : SuppliedAt env phase sw d ↔
      ((written env phase sw d).value d.name ≠ .null ∨ d.mandatory = true ∧ d.default ≠ .null) :=
    ⟨SuppliedAt.given, fun h => ⟨hself, h⟩⟩
  rw [step_record hspares (Source.not_self_of_not_isSelf hself), hiff]
  by_cases hvalue : (written env phase sw d).value d.name = .null
  case neg => simp [applyDefaults_of_value hvalue, hvalue]
  cases hm : d.mandatory with
  | false => simp [applyDefaults_of_optional hm, hvalue]
  | true =>
    by_cases hdefault : d.default = .null
    · simp [applyDefaults_of_no_default hm hvalue hdefault, hvalue, hdefault]
    · rw [applyDefaults_of_default hm hvalue hdefault, value, get?_store, if_pos rfl, Value.toOption_of_ne hdefault]
      simp [hdefault]

/-- After the turn of a field that is not special its name waits if it waited before, or if the field has to wait. -/
theorem step_queued_iff (hspecial : d.source ≠ .special) :
    ((step env phase sw d).queue.get? d.name).isSome ↔
      (sw.queue.get? d.name).isSome ∨ WaitsAt env phase sw d := by
  rw [step_queue hspares (Source.not_self_of_not_isSelf hself), enqueueSpecial_of_not (.inl hspecial)]
  have hsame (heq : (applyDefaults phase d (written env phase sw d) sw.queue).2.1 = sw.queue)
      (hnot : ¬WaitsAt env phase sw d) : ((applyDefaults phase d (written env phase sw d) sw.queue).2.1.get? d.name).isSome
        ↔ (sw.queue.get? d.name).isSome ∨ WaitsAt env phase sw d := by
    rw [heq, or_iff_left hnot]
  by_cases hvalue : (written env phase sw d).value d.name = .null
  case neg => exact hsame (by rw [applyDefaults_of_value hvalue]) fun hw => hvalue hw.absent
  cases hm : d.mandatory with
  | false =>
    refine hsame (by rw [applyDefaults_of_optional hm]) fun hw => ?_
    rw [hw.mandatory] at hm
    cases hm
  | true =>
    by_cases hdefault : d.default = .null
    · rw [applyDefaults_of_no_default hm hvalue hdefault, get?_insert_self]
      exact iff_of_true rfl (.inr ⟨hself, hm, hdefault, hvalue⟩)
    · exact hsame (by rw [applyDefaults_of_default hm hvalue hdefault]) fun hw => hdefault hw.bare

end Turn

/-! ## All turns -/

/-- A field of the name had to wait at its turn among the fields. -/
def HadToWait (env : Surface σ) (phase : Phase) (ds : List Descriptor) (record : Record) (s : σ) (name : String) :
    Prop :=
  ∃ before d after, ds = before ++ d :: after ∧ d.name = name ∧ WaitsAt env phase (run env phase before record s) d

/-- The last field of the name was supplied at its turn among the fields, after one of the name had to wait. -/
def SuppliedLater (env : Surface σ) (phase : Phase) (ds : List Descriptor) (record : Record) (s : σ) (name : String) :
    Prop :=
  ∃ before d after, ds = before ++ d :: after ∧ d.name = name ∧ HadToWait env phase before record s name ∧
    SuppliedAt env phase (run env phase before record s) d ∧ ∀ e ∈ after, e.name = name → e.source.IsSelf

/-- With one more field, that one had to wait, or another one before it. -/
theorem hadToWait_concat : HadToWait env phase (ds ++ [d]) record s name ↔
    HadToWait env phase ds record s name ∨ d.name = name ∧ WaitsAt env phase (run env phase ds record s) d := by
  constructor
  · rintro ⟨before, e, after, hds, hname, hwaits⟩
    rcases List.eq_nil_or_concat after with rfl | ⟨after, last, rfl⟩
    · obtain ⟨rfl, heq⟩ := List.append_inj' hds rfl
      cases heq
      exact .inr ⟨hname, hwaits⟩
    · rw [List.concat_eq_append, ← List.cons_append, ← List.append_assoc] at hds
      obtain ⟨rfl, -⟩ := List.append_inj' hds rfl
      exact .inl ⟨before, e, after, rfl, hname, hwaits⟩
  · rintro (⟨before, e, after, rfl, hname, hwaits⟩ | ⟨hname, hwaits⟩)
    · exact ⟨before, e, after ++ [d], by simp, hname, hwaits⟩
    · exact ⟨ds, d, [], rfl, hname, hwaits⟩

/-- With one more field, that one is the last of its name unless it is a reference. -/
theorem suppliedLater_concat : SuppliedLater env phase (ds ++ [d]) record s name ↔
    SuppliedLater env phase ds record s name ∧ (d.name = name → d.source.IsSelf) ∨
      d.name = name ∧ HadToWait env phase ds record s name ∧ SuppliedAt env phase (run env phase ds record s) d := by
  constructor
  · rintro ⟨before, e, after, hds, hname, hwaited, hsupplied, hlast⟩
    rcases List.eq_nil_or_concat after with rfl | ⟨after, last, rfl⟩
    · obtain ⟨rfl, heq⟩ := List.append_inj' hds rfl
      cases heq
      exact .inr ⟨hname, hwaited, hsupplied⟩
    · rw [List.concat_eq_append] at hlast hds
      rw [← List.cons_append, ← List.append_assoc] at hds
      obtain ⟨rfl, heq⟩ := List.append_inj' hds rfl
      cases heq
      exact .inl ⟨⟨before, e, after, rfl, hname, hwaited, hsupplied, fun x hx => hlast x (List.mem_append_left _ hx)⟩,
        hlast d (List.mem_append_right _ List.mem_cons_self)⟩
  · rintro (⟨⟨before, e, after, rfl, hname, hwaited, hsupplied, hlast⟩, hd⟩ | ⟨hname, hwaited, hsupplied⟩)
    · refine ⟨before, e, after ++ [d], by simp, hname, hwaited, hsupplied, fun x hx => ?_⟩
      rcases List.mem_append.1 hx with hx | hx
      · exact hlast x hx
      · rw [List.mem_singleton.1 hx]
        exact hd
    · exact ⟨ds, d, [], rfl, hname, hwaited, hsupplied, fun x hx => absurd hx List.not_mem_nil⟩

/-- A turn leaves other names alone, and a reference leaves its own name alone, too. -/
theorem step_untouched (hspares : env.Spares d.functions) (h : d.name = name → d.source.IsSelf) :
    (step env phase sw d).record.value name = sw.record.value name ∧
      (step env phase sw d).queue.get? name = sw.queue.get? name := by
  by_cases hname : d.name = name
  · obtain ⟨target, htarget⟩ := Source.exists_self_of_isSelf (h hname)
    rw [step_of_self htarget]
    exact ⟨rfl, rfl⟩
  · have hne : name ≠ d.name := fun heq => hname heq.symm
    rw [value, step_get?_of_ne hspares hne, step_queue_get?_of_ne hne]
    exact ⟨rfl, rfl⟩

section Run

variable (phase) (hspares : env.Spares (functionsOf ds)) (hspecial : ∀ d ∈ ds, d.source ≠ .special) (record : Record)
  (s : σ) (name : String)
include hspares hspecial

/-- **A name waits at the end of a sweep just if a field of that name had to wait at its turn.** -/
theorem run_queued_iff : ((run env phase ds record s).queue.get? name).isSome ↔ HadToWait env phase ds record s name := by
  induction ds using List.reverseRecOn with
  | nil =>
    refine iff_of_false Bool.false_ne_true ?_
    rintro ⟨before, d, after, hds, -⟩
    cases before <;> cases hds
  | append_singleton ds d ih =>
    have hd : env.Spares d.functions := hspares.mono fun f hf => mem_functionsOf (List.mem_append_right _ (by simp)) hf
    specialize ih (hspares.mono (functionsOf_mono fun _ => List.mem_append_left _))
      fun e he => hspecial e (List.mem_append_left _ he)
    rw [hadToWait_concat, ← ih, run_append, List.foldl_cons, List.foldl_nil]
    by_cases huntouched : d.name = name → d.source.IsSelf
    · rw [(step_untouched hd huntouched).2, or_iff_left]
      exact fun ⟨hname, hwaits⟩ => hwaits.ordinary (huntouched hname)
    · rw [Classical.not_imp] at huntouched
      obtain ⟨rfl, hself⟩ := huntouched
      rw [step_queued_iff hd hself (hspecial d (List.mem_append_right _ (by simp)))]
      simp

/-- **A name that waits at the end of a sweep holds a value just if its last field was supplied with one after another
field of the name had to wait.** -/
theorem run_supplied_iff :
    ((run env phase ds record s).queue.get? name).isSome ∧ (run env phase ds record s).record.value name ≠ .null ↔
      SuppliedLater env phase ds record s name := by
  induction ds using List.reverseRecOn with
  | nil =>
    refine iff_of_false (fun h => absurd h.1 Bool.false_ne_true) ?_
    rintro ⟨before, d, after, hds, -⟩
    cases before <;> cases hds
  | append_singleton ds d ih =>
    have hd : env.Spares d.functions := hspares.mono fun f hf => mem_functionsOf (List.mem_append_right _ (by simp)) hf
    have hds := hspares.mono (functionsOf_mono fun _ => List.mem_append_left _)
    have hordinary := fun e he => hspecial e (List.mem_append_left _ he)
    rw [suppliedLater_concat, run_append, List.foldl_cons, List.foldl_nil]
    by_cases huntouched : d.name = name → d.source.IsSelf
    · rw [(step_untouched hd huntouched).1, (step_untouched hd huntouched).2, ih hds hordinary,
        and_iff_left huntouched, or_iff_left]
      exact fun ⟨hname, _, hsupplied⟩ => hsupplied.ordinary (huntouched hname)
    · rw [or_iff_right fun h => huntouched h.2, ← run_queued_iff phase hds hordinary]
      rw [Classical.not_imp] at huntouched
      obtain ⟨rfl, hself⟩ := huntouched
      rw [step_value_ne_null_iff hd hself, step_queued_iff hd hself (hspecial d (List.mem_append_right _ (by simp)))]
      refine ⟨fun ⟨hqueued, hsupplied⟩ => ⟨rfl, ?_, hsupplied⟩, fun ⟨_, hqueued, hsupplied⟩ => ⟨.inl hqueued, hsupplied⟩⟩
      exact hqueued.resolve_right hsupplied.not_waitsAt

/-- With different names nothing that waits at the end of a sweep holds a value. -/
theorem run_value_of_queued (hnames : (ds.map (·.name)).Nodup)
    (hqueued : ((run env phase ds record s).queue.get? name).isSome) :
    (run env phase ds record s).record.value name = .null := by
  by_contra hvalue
  obtain ⟨before, d, after, rfl, hname, ⟨earlier, e, later, rfl, rfl, -⟩, -⟩ :=
    (run_supplied_iff phase hspares hspecial record s name).1 ⟨hqueued, hvalue⟩
  exact (names_of_split hnames).1 e (List.mem_append_right _ List.mem_cons_self) hname

end Run

end Sweep

/-! ## The batch -/

namespace Batch

theorem mem_notes_foldl {note : Diagnostic} {b : Batch σ} (h : note ∈ b.notes)
    (entries : List (String × Option FieldFunction)) : note ∈ (entries.foldl (step env phase) b).notes := by
  refine List.foldlRecOn (motive := fun b : Batch σ => note ∈ b.notes) entries _ h fun b hb e _ => ?_
  unfold step
  split
  · exact List.mem_append_left _ hb
  · dsimp only
    split
    · exact List.mem_append_left _ hb
    · exact List.mem_append_left _ (List.mem_append_left _ hb)

/-- What waits without a fallback is noted as missing. -/
theorem missingMandatory_mem_notes {queue : FallbackQueue} (h : queue.get? name = some none) (record : Record) (s : σ) :
    .missingMandatory name phase ∈ (run env phase queue record s).notes := by
  obtain ⟨before, after, hentries, -⟩ := List.lookup_eq_some_iff.1 h
  rw [run, hentries, List.foldl_append, List.foldl_cons]
  exact mem_notes_foldl (List.mem_append_right _ List.mem_cons_self) after

end Batch

/-! ## The whole pass -/

/-- What is made of a name that waits, whether it holds a value or not: what the fallback gives takes its place, and
without a fallback it stays and is noted as missing. -/
theorem resolvePass_of_queued (hspares : env.Spares (functionsOf ds)) {f? : Option FieldFunction}
    (hqueued : (Sweep.run env phase ds record s).queue.get? name = some f?) (halias : ¬IsAlias ds name) :
    let held := (Sweep.run env phase ds record s).record
    let final := resolvePass env phase ds record s
    (∀ f, f? = some f → ∃ turn, final.record.get? name = match (env.call f held turn).1 with
      | .ok v => v.toOption
      | .error _ => held.get? name) ∧
    (f? = none → final.record.get? name = held.get? name ∧ .missingMandatory name phase ∈ final.notes) := by
  intro held final
  have hordered : Sweep.Ordered ds (Sweep.run env phase ds record s) :=
    Sweep.run_ordered env phase (fun _ hd => hd) record s
  obtain ⟨before, after, hentries, -⟩ := List.lookup_eq_some_iff.1 hqueued
  let turn := Batch.upTo env phase before held (Sweep.run env phase ds record s).state
  have hrecord : turn.record = held :=
    Batch.foldl_record phase (fun n g hg => hordered.ours n g (hentries ▸ List.mem_append_left _ hg)) hspares _
  have hend := get?_unlinked phase hspares record s name
  dsimp only at hend
  rw [← resolvePass_get?_of_not_alias halias, Batch.lookup_results hordered.queue hentries] at hend
  refine ⟨?_, ?_⟩
  · rintro f rfl
    refine ⟨turn.state, hend.trans ?_⟩
    rw [Option.bind_some, hrecord]
    cases (env.call f held turn.state).1 <;> rfl
  · rintro rfl
    exact ⟨hend, List.mem_append_right _ (Batch.missingMandatory_mem_notes hqueued held _)⟩

/-- **When a field that waits for its fallback holds a value all the same.** No field is special, names may stand more
than once, the record may have held anything, and functions leave it alone.

- When the batch begins, a name waits and holds a value just if one of its fields had to wait at its turn, and the last
  one of its fields was supplied with a value later on; so never if the fields have different names.
- Then, as always, what the fallback gives takes the place of the value, and where there is no fallback the value stays
  but is noted as missing. -/
theorem resolvePass_waiting_held_iff (phase : Phase) (record : Record) (s : σ) (hspares : env.Spares (functionsOf ds))
    (hspecial : ∀ d ∈ ds, d.source ≠ .special) :
    let sw := Sweep.run env phase ds record s
    let final := resolvePass env phase ds record s
    (∀ name, (sw.queue.get? name).isSome ∧ sw.record.value name ≠ .null ↔
      Sweep.SuppliedLater env phase ds record s name) ∧
    ((ds.map (·.name)).Nodup → ∀ name, (sw.queue.get? name).isSome → sw.record.value name = .null) ∧
    ∀ name f?, sw.queue.get? name = some f? → ¬IsAlias ds name →
      (∀ f, f? = some f → ∃ turn, final.record.get? name = match (env.call f sw.record turn).1 with
        | .ok v => v.toOption
        | .error _ => sw.record.get? name) ∧
      (f? = none → final.record.get? name = sw.record.get? name ∧ .missingMandatory name phase ∈ final.notes) :=
  ⟨Sweep.run_supplied_iff phase hspares hspecial record s,
    fun hnames name => Sweep.run_value_of_queued phase hspares hspecial record s name hnames,
    fun _ _ => resolvePass_of_queued hspares⟩

/-- An address from a header that may have to wait, and a fixed one later under the same name. -/
def addressFields (fallback : Option FieldFunction) : List Descriptor :=
  [⟨"ip", .header "x-forwarded-for", true, .null, fallback⟩, ⟨"ip", .fixed (.text "0.0.0.0"), false, .null, none⟩]

/-- What they are resolved against: a request whose headers are an empty table. -/
def addressSurface : Surface World :=
  Application.surroundings.surface ⟨0, .table [], none⟩ ⟨1, .absent, none⟩ none

/-- A function that gives another address. -/
def otherAddress : FieldFunction := .script (.const (some (.text "fallback")))

theorem spares_addressFields : addressSurface.Spares (functionsOf (addressFields (some otherAddress))) := by
  intro f hf record s
  rw [show functionsOf (addressFields (some otherAddress)) = [otherAddress] from rfl, List.mem_singleton] at hf
  rw [hf]
  rfl

/-- The header is missing, so its field waits; the fixed address is there when the fallback is called, and gives way. -/
theorem resolvePass_waiting_held_iff_address :
    addressSurface.Spares (functionsOf (addressFields (some otherAddress))) ∧
    (∀ d ∈ addressFields (some otherAddress), d.source ≠ .special) ∧
    Sweep.SuppliedLater addressSurface .pre (addressFields (some otherAddress)) .empty {} "ip" ∧
    (resolvePass addressSurface .pre (addressFields (some otherAddress)) .empty {}).record.get? "ip" =
      some (.text "fallback") := by
  have hspecial : ∀ d ∈ addressFields (some otherAddress), d.source ≠ .special := by
    simp [addressFields]
  obtain ⟨hheld, -, hfinal⟩ := resolvePass_waiting_held_iff .pre .empty {} spares_addressFields hspecial
  refine ⟨spares_addressFields, hspecial, (hheld "ip").1 ⟨rfl, nofun⟩, ?_⟩
  obtain ⟨turn, hturn⟩ := (hfinal "ip" (some otherAddress) rfl (by rw [isAlias_iff]; decide)).1 otherAddress rfl
  exact hturn

/-- **A field may wait for its fallback although it holds a value**, and lose that value to the fallback. -/
theorem not_waiting_absent :
    addressSurface.Spares (functionsOf (addressFields (some otherAddress))) ∧
    (∀ d ∈ addressFields (some otherAddress), d.source ≠ .special) ∧
    let sw := Sweep.run addressSurface .pre (addressFields (some otherAddress)) .empty {}
    (¬∀ name, (sw.queue.get? name).isSome → sw.record.value name = .null) ∧
    sw.record.get? "ip" = some (.text "0.0.0.0") ∧
    (resolvePass addressSurface .pre (addressFields (some otherAddress)) .empty {}).record.get? "ip" =
      some (.text "fallback") := by
  refine ⟨spares_addressFields, by simp [addressFields], fun h => ?_, rfl, rfl⟩
  exact absurd (h "ip" rfl) nofun

end ActivityLog
