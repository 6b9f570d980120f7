import ActivityLog.Application
import ActivityLog.Proofs.Pass.Batch
import Mathlib.Data.List.Nodup

/-!
# The closed form of a pass

A pass over fields of different names, field by field: `resolvePass_closed_form`. Fallbacks appear in it as what they
give of one record only, the record at the end of the sweep.

With different names each field has one turn. Up to it the sweep leaves the name alone (`Sweep.turn_sameAt`), and after
it, too (`Sweep.end_sameAt`); so the record at the end of the sweep, the queue and the references can be read off one
step.
-/

namespace ActivityLog

open OrderedMap

variable {σ : Type} {env : Surface σ} {phase : Phase} {I : σ → Prop}
  {given : FieldFunction → Record → Except Failure Value} {record : Record}

/-! ## Kinds of sources -/

/-- The source writes in the phase: a header, a field, a fixed value on arrival, and a time except for one on completion
without a function for it. -/
def Source.Runs (phase : Phase) : Source → Prop
  | .header _ => True
  | .field _ => True
  | .fixed _ => phase = .pre
  | .time _ none => phase = .pre
  | .time _ (some _) => True
  | .self _ => False
  | .special => False

/-- The source could write, but not in this phase. -/
def Source.Rests (phase : Phase) : Source → Prop
  | .fixed _ => phase = .post
  | .time _ none => phase = .post
  | _ => False

/-- The source is another field of the record. -/
def Source.IsSelf : Source → Prop
  | .self _ => True
  | _ => False

/-- The value that a source gives, if it is not an absent one. -/
def Primary.found? (result : Except Failure Primary) : Option Value :=
  match result with
  | .ok (.value v) => v.toOption
  | _ => none

theorem Source.onto_of_runs {src : Source} (h : src.Runs phase) (record : Record) (s : σ) (before : Option Value) :
    Primary.onto (src.primary env phase record s).1 before = Primary.found? (src.primary env phase record s).1 := by
  have hmap : ∀ r : Except Failure Value,
      Primary.onto (r.map .value) before = Primary.found? (r.map .value) := by
    rintro (e | v) <;> rfl
  rcases src with _ | _ | _ | _ | ⟨_ | _, _ | _⟩ | _ <;> cases phase <;> first
    | exact hmap _
    | rfl
    | cases h

theorem Source.onto_of_rests {src : Source} (h : src.Rests phase) (record : Record) (s : σ) (before : Option Value) :
    Primary.onto (src.primary env phase record s).1 before = before := by
  rcases src with _ | _ | _ | _ | ⟨_ | _, _ | _⟩ | _ <;> cases phase <;> first
    | rfl
    | cases h

theorem Source.not_self_of_runs {src : Source} (h : src.Runs phase) (target : String) : src ≠ .self target := by
  rintro rfl; exact h

theorem Source.not_self_of_rests {src : Source} (h : src.Rests phase) (target : String) : src ≠ .self target := by
  rintro rfl; exact h

theorem Source.not_special_of_runs {src : Source} (h : src.Runs phase) : src ≠ .special := by
  rintro rfl; exact h

theorem Source.not_special_of_rests {src : Source} (h : src.Rests phase) : src ≠ .special := by
  rintro rfl; exact h

theorem Source.not_self_of_not_isSelf {src : Source} (h : ¬src.IsSelf) (target : String) : src ≠ .self target := by
  rintro rfl
  exact h trivial

theorem Source.exists_self_of_isSelf {src : Source} (h : src.IsSelf) : ∃ target, src = .self target := by
  cases src <;> first
    | exact ⟨_, rfl⟩
    | exact h.elim

/-- What a mandatory field without a value is filled with: its default, else what its fallback gives of a record. -/
def Descriptor.filled (given : FieldFunction → Record → Except Failure Value) (d : Descriptor) (record : Record) :
    Option Value :=
  if d.mandatory then d.default.toOption.or (d.fallback.bind fun f => (given f record).toOption.bind Value.toOption)
  else none

/-- A field that does not wait has nothing but its default to be filled with. -/
theorem Descriptor.or_filled_of_not_waits {d : Descriptor} {held : Option Value} (h : ¬d.Waits held)
    (record : Record) : held.or (d.filled given record) = held.or d.defaulted := by
  unfold Descriptor.filled Descriptor.defaulted
  cases hm : d.mandatory
  · simp
  · cases held with
    | some v => rfl
    | none =>
      have hd : d.default ≠ .null := fun hd => h ⟨hm, rfl, hd⟩
      simp [Value.toOption_of_ne hd]

theorem Descriptor.filled_of_waits {d : Descriptor} {held : Option Value} (h : d.Waits held) (record : Record) :
    d.filled given record = d.fallback.bind fun f => (given f record).toOption.bind Value.toOption := by
  simp [Descriptor.filled, h.1, h.2.2, Value.toOption]

theorem Descriptor.filled_of_no_fallback {d : Descriptor} (h : d.fallback = none) (record : Record) :
    d.filled given record = d.defaulted := by
  simp [Descriptor.filled, Descriptor.defaulted, h]

theorem Descriptor.defaulted_of_waits {d : Descriptor} {held : Option Value} (h : d.Waits held) :
    d.defaulted = none := by
  simp [Descriptor.defaulted, h.2.2, Value.toOption]

namespace Sweep

/-! ## The turn of a field -/

variable {before after : List Descriptor} {d : Descriptor}

theorem names_of_split (h : ((before ++ d :: after).map (·.name)).Nodup) :
    (∀ e ∈ before, d.name ≠ e.name) ∧ ∀ e ∈ after, d.name ≠ e.name := by
  rw [List.map_append, List.map_cons, List.nodup_append, List.nodup_cons] at h
  obtain ⟨-, ⟨hafter, -⟩, hbefore⟩ := h
  exact ⟨fun e he heq => hbefore _ (List.mem_map_of_mem he) d.name List.mem_cons_self heq.symm,
    fun e he heq => hafter (heq ▸ List.mem_map_of_mem he)⟩

variable (phase) (hnames : ((before ++ d :: after).map (·.name)).Nodup) (hrecord : record.Clean)
  (hspares : env.Spares (functionsOf (before ++ d :: after))) (s : σ)

include hspares

theorem spares_of_split : env.Spares d.functions :=
  hspares.mono fun _ hf => mem_functionsOf (List.mem_append_right _ List.mem_cons_self) hf

include hrecord in
/-- At its turn a field finds nothing absent in the record. -/
theorem clean_of_split : (run env phase before record s).record.Clean :=
  (run_sound phase (fun _ he => List.mem_append_left _ he) hspares hrecord s).clean

include hnames

/-- At its turn a field of a name of its own is as the pass found it. -/
theorem turn_sameAt : SameAt d.name { record, state := s } (run env phase before record s) :=
  foldl_sameAt _ (names_of_split hnames).1 (hspares.mono (functionsOf_mono fun _ he => List.mem_append_left _ he)) _

/-- What its turn makes of a field stays to the end of the sweep. -/
theorem end_sameAt : SameAt d.name (step env phase (run env phase before record s) d)
    (run env phase (before ++ d :: after) record s) := by
  rw [run_append]
  refine foldl_sameAt _ (names_of_split hnames).2 (hspares.mono (functionsOf_mono fun _ he => ?_)) _
  exact List.mem_append_right _ (List.mem_cons_of_mem _ he)

include hrecord

/-- The record at the end of the sweep, at a field that is no reference. -/
theorem run_get?_of_split (hself : ∀ target, d.source ≠ .self target) :
    (run env phase (before ++ d :: after) record s).record.get? d.name =
      (Primary.onto (turn env phase (run env phase before record s) d) (record.get? d.name)).or d.defaulted := by
  rw [(end_sameAt phase hnames hspares s).record,
    step_get? (spares_of_split hspares) (clean_of_split phase hrecord hspares s) hself,
    (turn_sameAt phase hnames hspares s).record]

/-- The queue at the end of the sweep, at a field that waits for its fallback. -/
theorem run_queue_of_waits (hself : ∀ target, d.source ≠ .self target)
    (hw : d.Waits (Primary.onto (turn env phase (run env phase before record s) d) (record.get? d.name))) :
    (run env phase (before ++ d :: after) record s).queue.get? d.name = some d.fallback := by
  rw [← (turn_sameAt phase hnames hspares s).record] at hw
  rw [(end_sameAt phase hnames hspares s).queue,
    step_queue_of_waits (spares_of_split hspares) (clean_of_split phase hrecord hspares s) hself hw, get?_insert_self]

/-- The queue at the end of the sweep, at a field that does not wait: special ones with a fallback are in it. -/
theorem run_queue_of_not_waits (hself : ∀ target, d.source ≠ .self target)
    (hw : ¬d.Waits (Primary.onto (turn env phase (run env phase before record s) d) (record.get? d.name))) :
    (run env phase (before ++ d :: after) record s).queue.get? d.name =
      (enqueueSpecial d (run env phase before record s).queue).get? d.name := by
  rw [← (turn_sameAt phase hnames hspares s).record] at hw
  rw [(end_sameAt phase hnames hspares s).queue,
    step_queue_of_not_waits (spares_of_split hspares) (clean_of_split phase hrecord hspares s) hself hw]

/-! ## What the batch makes of a field -/

/-- A field that is neither a reference nor special with a fallback: what its source left, else what it is filled
with. -/
theorem settled_of_split (hself : ∀ target, d.source ≠ .self target)
    (hspecial : d.source ≠ .special ∨ d.fallback = none) :
    ((run env phase (before ++ d :: after) record s).settled given).get? d.name =
      (Primary.onto (turn env phase (run env phase before record s) d) (record.get? d.name)).or
        (d.filled given (run env phase (before ++ d :: after) record s).record) := by
  have hqueue := (run_sound phase (fun _ he => he) hspares hrecord s).queue
  have hend := run_get?_of_split phase hnames hrecord hspares s hself
  by_cases hw : d.Waits (Primary.onto (turn env phase (run env phase before record s) d) (record.get? d.name))
  · have hnone : (run env phase (before ++ d :: after) record s).record.get? d.name = none := by
      rw [hend, hw.2.1, Descriptor.defaulted_of_waits hw]; rfl
    rw [get?_settled_of_queued hqueue (run_queue_of_waits phase hnames hrecord hspares s hself hw), hnone, hw.2.1,
      Descriptor.filled_of_waits hw, Option.none_or]
    cases d.fallback with
    | none => rfl
    | some f =>
      simp only [Option.bind_some]
      cases (given f (run env phase (before ++ d :: after) record s).record).toOption <;> rfl
  · have hq : (run env phase (before ++ d :: after) record s).queue.get? d.name = none := by
      rw [run_queue_of_not_waits phase hnames hrecord hspares s hself hw, enqueueSpecial_of_not hspecial,
        (turn_sameAt phase hnames hspares s).queue]
      rfl
    rw [get?_settled_of_not_queued hqueue hq, hend, Descriptor.or_filled_of_not_waits hw]

/-- A special field with a fallback: what that gives, and if it fails what the field held, else its default. -/
theorem settled_special_of_split {f : FieldFunction} (hspecial : d.source = .special) (hf : d.fallback = some f) :
    ((run env phase (before ++ d :: after) record s).settled given).get? d.name =
      match given f (run env phase (before ++ d :: after) record s).record with
      | .ok v => v.toOption
      | .error _ => (record.get? d.name).or d.defaulted := by
  have hqueue := (run_sound phase (fun _ he => he) hspares hrecord s).queue
  have hself : ∀ target, d.source ≠ .self target := fun t ht => by rw [hspecial] at ht; cases ht
  have hend := run_get?_of_split phase hnames hrecord hspares s hself
  have honto : Primary.onto (turn env phase (run env phase before record s) d) (record.get? d.name) =
      record.get? d.name := by
    simp only [turn, hspecial]; rfl
  have hq : (run env phase (before ++ d :: after) record s).queue.get? d.name = some (some f) := by
    by_cases hw : d.Waits (Primary.onto (turn env phase (run env phase before record s) d) (record.get? d.name))
    · rw [run_queue_of_waits phase hnames hrecord hspares s hself hw, hf]
    · rw [run_queue_of_not_waits phase hnames hrecord hspares s hself hw, enqueueSpecial_of_special hspecial hf,
        get?_insert_self]
  rw [get?_settled_of_queued hqueue hq, hend, honto]
  cases hg : given f (run env phase (before ++ d :: after) record s).record <;> simp [hg, Except.toOption]

end Sweep

/-! ## References -/

/-- The references among the fields, with their targets. -/
def references (ds : List Descriptor) : List (String × String) :=
  ds.filterMap fun d => match d.source with
    | .self target => some (d.name, target)
    | _ => none

theorem references_append (before after : List Descriptor) :
    references (before ++ after) = references before ++ references after := List.filterMap_append

theorem references_cons_of_self {d : Descriptor} {target : String} (h : d.source = .self target)
    (rest : List Descriptor) : references (d :: rest) = (d.name, target) :: references rest := by
  simp [references, h]

theorem references_cons_of_not_self {d : Descriptor} (h : ∀ target, d.source ≠ .self target)
    (rest : List Descriptor) : references (d :: rest) = references rest := by
  unfold references
  rw [List.filterMap_cons]
  split
  · rfl
  · next heq =>
    split at heq
    · next hs => exact absurd hs (h _)
    · cases heq

theorem mem_fst_references {ds : List Descriptor} {name : String} :
    name ∈ (references ds).map Prod.fst ↔ ∃ d ∈ ds, d.name = name ∧ d.source.IsSelf := by
  induction ds with
  | nil => simp [references]
  | cons d rest ih =>
    by_cases hs : ∃ target, d.source = .self target
    · obtain ⟨target, hs⟩ := hs
      simp [references_cons_of_self hs, ih, hs, Source.IsSelf, eq_comm]
    · have hn : ¬d.source.IsSelf := fun hself => hs (Source.exists_self_of_isSelf hself)
      rw [references_cons_of_not_self fun t ht => hs ⟨t, ht⟩, ih]
      simp [hn]

/-- A sweep puts the references into a map, one after the other. -/
theorem Sweep.foldl_aliases (rest : List Descriptor) (sw : Sweep σ) :
    (rest.foldl (step env phase) sw).aliases = sw.aliases.insertAll (references rest) := by
  induction rest generalizing sw with
  | nil => rfl
  | cons d rest ih =>
    rw [List.foldl_cons, ih]
    by_cases hs : ∃ target, d.source = .self target
    · obtain ⟨target, hs⟩ := hs
      rw [step_of_self hs, references_cons_of_self hs]
      rfl
    · have hs' : ∀ target, d.source ≠ .self target := fun t ht => hs ⟨t, ht⟩
      rw [step_aliases_of_not_self hs', references_cons_of_not_self hs']

theorem Sweep.run_aliases (ds : List Descriptor) (s : σ) :
    (run env phase ds record s).aliases = .ofList (references ds) := foldl_aliases ds _

theorem references_sublist (ds : List Descriptor) :
    ((references ds).map Prod.fst).Sublist (ds.map (·.name)) := by
  induction ds with
  | nil => exact .slnil
  | cons d rest ih =>
    by_cases hs : ∃ target, d.source = .self target
    · obtain ⟨target, hs⟩ := hs
      rw [references_cons_of_self hs]
      exact ih.cons_cons _
    · rw [references_cons_of_not_self fun t ht => hs ⟨t, ht⟩]
      exact ih.cons _

/-! ## The closed form -/

section

variable {ds : List Descriptor} (phase) {s : σ} (hnames : (ds.map (·.name)).Nodup) (hrecord : record.Clean)
  (hspares : env.Spares (functionsOf ds)) (hanswers : env.Answers I given (functionsOf ds)) (hs : I s)

include hnames hspares

/-- What no field of a list touches before the references are copied: names of no field, and those of references. -/
theorem settled_of_untouched {name : String} (h : ∀ d ∈ ds, d.name = name → d.source.IsSelf) :
    ((Sweep.run env phase ds record s).settled given).get? name = record.get? name := by
  have hsame : (Sweep.run env phase ds record s).record.get? name = record.get? name ∧
      (Sweep.run env phase ds record s).queue.get? name = none := by
    by_cases hex : ∃ d ∈ ds, d.name = name
    · obtain ⟨d, hd, rfl⟩ := hex
      obtain ⟨before, after, rfl⟩ := List.append_of_mem hd
      obtain ⟨target, hsrc⟩ := Source.exists_self_of_isSelf (h d hd rfl)
      have hturn : Sweep.SameAt d.name { record, state := s } (Sweep.run env phase before record s) :=
        Sweep.turn_sameAt phase hnames hspares s
      have hend : Sweep.SameAt d.name _ (Sweep.run env phase (before ++ d :: after) record s) :=
        Sweep.end_sameAt phase hnames hspares s
      rw [Sweep.step_of_self hsrc] at hend
      exact ⟨hend.record.trans hturn.record, hend.queue.trans hturn.queue⟩
    · have hall := Sweep.foldl_sameAt phase (fun d hd heq => hex ⟨d, hd, heq.symm⟩) hspares { record, state := s }
      exact ⟨hall.record, hall.queue⟩
  have hordered : Sweep.Ordered ds (Sweep.run env phase ds record s) :=
    Sweep.run_ordered env phase (fun _ hd => hd) record s
  rw [Sweep.get?_settled_of_not_queued hordered.queue hsame.2, hsame.1]

include hanswers hs

theorem resolvePass_eq_copyAliases : (resolvePass env phase ds record s).record =
    copyAliases ((Sweep.run env phase ds record s).settled given) (references ds) := by
  rw [resolvePass_record hspares hanswers hs, Sweep.run_aliases,
    entries_ofList (hnames.sublist (references_sublist ds))]

/-- A field that is no reference keeps what the batch made of it. -/
theorem resolvePass_get?_of_not_self {d : Descriptor} (hd : d ∈ ds) (hself : ∀ target, d.source ≠ .self target) :
    (resolvePass env phase ds record s).record.get? d.name =
      ((Sweep.run env phase ds record s).settled given).get? d.name := by
  rw [resolvePass_eq_copyAliases phase hnames hspares hanswers hs, get?_copyAliases_of_not_mem]
  rw [mem_fst_references]
  rintro ⟨e, he, hname, hes⟩
  have heq : e = d := List.inj_on_of_nodup_map hnames he hd hname
  rw [heq] at hes
  obtain ⟨target, hsrc⟩ := Source.exists_self_of_isSelf hes
  exact hself target hsrc

include hrecord

/-- A reference takes what its target held before the pass if that is a reference that is not resolved yet, and what
the target holds in the end otherwise. -/
theorem resolvePass_get?_of_self {before after : List Descriptor} {d : Descriptor} {target : String}
    (hds : ds = before ++ d :: after) (hself : d.source = .self target) :
    (resolvePass env phase ds record s).record.get? d.name =
      if target ∈ (references (d :: after)).map Prod.fst then record.get? target
      else (resolvePass env phase ds record s).record.get? target := by
  subst hds
  have hclean : ((Sweep.run env phase (before ++ d :: after) record s).settled given).Clean :=
    Sweep.settled_clean (Sweep.run_sound phase (fun _ hd => hd) hspares hrecord s).clean
  have heq : (resolvePass env phase (before ++ d :: after) record s).record =
      copyAliases ((Sweep.run env phase (before ++ d :: after) record s).settled given) _ :=
    resolvePass_eq_copyAliases phase hnames hspares hanswers hs
  rw [references_append, references_cons_of_self hself] at heq
  have hafter : d.name ∉ (references after).map Prod.fst := by
    rw [mem_fst_references]
    rintro ⟨e, he, hname, -⟩
    exact (Sweep.names_of_split hnames).2 e he hname.symm
  rw [heq, get?_copyAliases_of_split hclean hafter]
  split
  · next hmem =>
    obtain ⟨e, he, rfl, hes⟩ := mem_fst_references.1 hmem
    have heds : e ∈ before ++ d :: after := List.mem_append_right _ he
    rw [get?_copyAliases_of_not_mem, settled_of_untouched phase hnames hspares]
    · intro x hx hname
      rwa [List.inj_on_of_nodup_map hnames hx heds hname]
    · rw [mem_fst_references]
      rintro ⟨x, hx, hname, -⟩
      rw [List.map_append, List.nodup_append] at hnames
      exact hnames.2.2 _ (List.mem_map_of_mem hx) _ (List.mem_map_of_mem he) hname
  · next hmem =>
    rw [references_cons_of_self hself] at hmem
    rw [copyAliases_append, get?_copyAliases_of_not_mem hmem]

end

/-- **The closed form of a pass.** With fields of different names, a record without absent values and functions of the
record's contents that leave the record alone, let `r₁` be the record at the end of the sweep. Then

- names of no field are left alone;
- a field whose source writes in this phase holds what that gives at the field's turn, else what it is filled with;
- a field whose source rests in this phase holds what it held, else what it is filled with;
- a special field with a fallback holds what that gives of `r₁`, and if it fails what the field held, else its default;
- a special field without one holds what it held, else its default;
- a reference holds what its target held before, if that is a reference that does not stand before this one, and what
  the target holds in the end otherwise.

Filling in concerns mandatory fields only: the default, else what the fallback gives of `r₁`. -/
theorem resolvePass_closed_form {ds : List Descriptor} (phase : Phase) {s : σ} (hnames : (ds.map (·.name)).Nodup)
    (hrecord : record.Clean) (hspares : env.Spares (functionsOf ds)) (hanswers : env.Answers I given (functionsOf ds))
    (hs : I s) :
    let r₁ := (Sweep.run env phase ds record s).record
    let final := (resolvePass env phase ds record s).record
    (∀ name, (∀ d ∈ ds, d.name ≠ name) → final.get? name = record.get? name) ∧
    ∀ before d after, ds = before ++ d :: after →
      let turn := Sweep.run env phase before record s
      (d.source.Runs phase → final.get? d.name =
        (Primary.found? (d.source.primary env phase turn.record turn.state).1).or (d.filled given r₁)) ∧
      (d.source.Rests phase → final.get? d.name = (record.get? d.name).or (d.filled given r₁)) ∧
      (d.source = .special → ∀ f, d.fallback = some f → final.get? d.name = match given f r₁ with
        | .ok v => v.toOption
        | .error _ => (record.get? d.name).or d.defaulted) ∧
      (d.source = .special → d.fallback = none → final.get? d.name = (record.get? d.name).or d.defaulted) ∧
      ∀ target, d.source = .self target →
        ((∃ e ∈ d :: after, e.name = target ∧ e.source.IsSelf) → final.get? d.name = record.get? target) ∧
        ((¬∃ e ∈ d :: after, e.name = target ∧ e.source.IsSelf) → final.get? d.name = final.get? target) := by
  refine ⟨?_, ?_⟩
  · intro name hname
    rw [resolvePass_eq_copyAliases phase hnames hspares hanswers hs, get?_copyAliases_of_not_mem,
      settled_of_untouched phase hnames hspares]
    · exact fun d hd heq => absurd heq (hname d hd)
    · rw [mem_fst_references]
      rintro ⟨d, hd, heq, -⟩
      exact hname d hd heq
  · intro before d after hds
    have hd : d ∈ ds := by rw [hds]; exact List.mem_append_right _ List.mem_cons_self
    have hend (hself : ∀ target, d.source ≠ .self target) : (resolvePass env phase ds record s).record.get? d.name =
        ((Sweep.run env phase ds record s).settled given).get? d.name :=
      resolvePass_get?_of_not_self phase hnames hspares hanswers hs hd hself
    have href := fun target (h : d.source = .self target) =>
      resolvePass_get?_of_self phase hnames hrecord hspares hanswers hs hds h
    subst hds
    refine ⟨?runs, ?rests, ?special, ?bare, ?reference⟩
    case runs =>
      intro h
      rw [hend (Source.not_self_of_runs h), Sweep.settled_of_split phase hnames hrecord hspares s
        (Source.not_self_of_runs h) (.inl (Source.not_special_of_runs h)), Sweep.turn, Source.onto_of_runs h]
    case rests =>
      intro h
      rw [hend (Source.not_self_of_rests h), Sweep.settled_of_split phase hnames hrecord hspares s
        (Source.not_self_of_rests h) (.inl (Source.not_special_of_rests h)), Sweep.turn, Source.onto_of_rests h]
    case special =>
      intro h f hf
      rw [hend (fun t ht => by rw [h] at ht; cases ht),
        Sweep.settled_special_of_split phase hnames hrecord hspares s h hf]
    case bare =>
      intro h hf
      have hself : ∀ target, d.source ≠ .self target := fun t ht => by rw [h] at ht; cases ht
      rw [hend hself, Sweep.settled_of_split phase hnames hrecord hspares s hself (.inr hf),
        Descriptor.filled_of_no_fallback hf, Sweep.turn, h]
      rfl
    case reference =>
      intro target h
      refine ⟨fun hex => ?_, fun hex => ?_⟩
      · rw [href _ h, if_pos (mem_fst_references.2 hex)]
      · rw [href _ h, if_neg (mt mem_fst_references.1 hex)]

/-! ## A completion -/

/-- Fields of a completion: a reference, a fixed value that rests, a special field, a time that rests and is filled in
by its fallback, and a header that cannot be read and has a default. -/
def completionFields : List Descriptor :=
  [⟨"copy", .self "status", false, .null, none⟩,
    ⟨"layer", .fixed (.text "new"), false, .null, none⟩,
    ⟨"status", .special, true, .null, some (.script (.const (some (.int 500))))⟩,
    ⟨"seen", .time none none, true, .null, some (.script (.recorded "status" (some (.text "none yet"))))⟩,
    ⟨"type", .header "content-type", true, .text "unknown", none⟩]

/-- What they are resolved against: the application's functions, and a response whose headers cannot be read. -/
def completionSurface : Surface World :=
  Application.surroundings.surface ⟨0, .absent, none⟩ ⟨1, .failing (.fault .key "'content-type'"), none⟩ none

/-- The record as the arrival left it. -/
def arrivedRecord : Record := ⟨[("layer", .text "api"), ("path", .text "/")]⟩

/-- The closed form at these fields: the fallback of `seen` does not see that of `status`, but the reference does. -/
theorem resolvePass_closed_form_completion :
    (completionFields.map (·.name)).Nodup ∧ arrivedRecord.Clean ∧
    completionSurface.Spares (functionsOf completionFields) ∧
    completionSurface.Answers (fun _ => True) (fun f record => (completionSurface.call f record {}).1)
      (functionsOf completionFields) ∧
    let final := (resolvePass completionSurface .post completionFields arrivedRecord {}).record
    final.get? "path" = some (.text "/") ∧ final.get? "layer" = some (.text "api") ∧
    final.get? "status" = some (.int 500) ∧ final.get? "seen" = some (.text "none yet") ∧
    final.get? "type" = some (.text "unknown") ∧ final.get? "copy" = final.get? "status" := by
  have hnames : (completionFields.map (·.name)).Nodup := by decide
  have hrecord : arrivedRecord.Clean := by
    intro name h
    simp only [arrivedRecord, get?, lookup_cons_ite] at h
    split at h
    · cases h
    · split at h <;> cases h
  have hfunctions : functionsOf completionFields =
      [.script (.const (some (.int 500))), .script (.recorded "status" (some (.text "none yet")))] := rfl
  have hspares : completionSurface.Spares (functionsOf completionFields) := by
    rw [hfunctions]
    intro f hf record s
    rcases List.mem_cons.1 hf with rfl | hf
    · rfl
    · rw [List.mem_singleton.1 hf]; rfl
  have hanswers : completionSurface.Answers (fun _ => True)
      (fun f record => (completionSurface.call f record {}).1) (functionsOf completionFields) := by
    rw [hfunctions]
    refine ⟨fun _ _ _ _ => trivial, fun _ _ _ _ => trivial, fun _ _ => trivial, fun _ _ _ _ _ => trivial, ?_⟩
    intro f hf record s _
    rcases List.mem_cons.1 hf with rfl | hf
    · rfl
    · rw [List.mem_singleton.1 hf]; rfl
  obtain ⟨hother, hfield⟩ := resolvePass_closed_form .post hnames hrecord hspares hanswers (s := {}) trivial
  refine ⟨hnames, hrecord, hspares, hanswers, hother "path" (by decide), ?_, ?_, ?_, ?_, ?_⟩
  · exact (hfield [_] _ [_, _, _] rfl).2.1 rfl
  · exact (hfield [_, _] _ [_, _] rfl).2.2.1 rfl _ rfl
  · exact (hfield [_, _, _] _ [_] rfl).2.1 rfl
  · exact (hfield [_, _, _, _] _ [] rfl).1 trivial
  · refine ((hfield [] _ [_, _, _, _] rfl).2.2.2.2 "status" rfl).2 ?_
    rintro ⟨e, he, hname, hself⟩
    simp only [List.mem_cons, List.not_mem_nil, or_false] at he
    rcases he with rfl | rfl | rfl | rfl | rfl <;> first | exact hself | exact absurd hname (by decide)

end ActivityLog
