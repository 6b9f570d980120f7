import ActivityLog.Proofs.Pass.ClosedForm

/-!
# References among the fields

What references make of a record, names standing more than once allowed: `resolvePass_references`. The copies are made
one after the other, in the order in which their names first came up (`ComesFirst`, `mem_before_iff`), each from the
target that came up last (`RefersTo`, `get?_references_iff`). So a reference takes the final value of its target if
that is none itself or has had its turn, and what the target held before the copies (`unlinked`) otherwise.
-/

namespace ActivityLog

open OrderedMap

variable {σ : Type} {env : Surface σ} {phase : Phase} {record : Record} {s : σ} {ds : List Descriptor}
  {name target : String}

/-! ## Which names are references, and of what -/

/-- The name is one of a reference among the fields. -/
def IsAlias (ds : List Descriptor) (name : String) : Prop := ∃ d ∈ ds, d.name = name ∧ d.source.IsSelf

/-- The last reference of the name has this target. -/
def RefersTo (ds : List Descriptor) (name target : String) : Prop :=
  ∃ before d after, ds = before ++ d :: after ∧ d.name = name ∧ d.source = .self target ∧ ¬IsAlias after name

/-- The first reference of `a` stands before the first one of `b`. -/
def ComesFirst (ds : List Descriptor) (a b : String) : Prop :=
  ∃ before after, ds = before ++ after ∧ IsAlias before a ∧ ¬IsAlias before b

theorem isAlias_iff : IsAlias ds name ↔ name ∈ (references ds).map Prod.fst := mem_fst_references.symm

theorem isAlias_append {before after : List Descriptor} :
    IsAlias (before ++ after) name ↔ IsAlias before name ∨ IsAlias after name := by
  simp only [isAlias_iff, references_append, List.map_append, List.mem_append]

theorem isAlias_singleton {d : Descriptor} : IsAlias [d] name ↔ d.name = name ∧ d.source.IsSelf := by simp [IsAlias]

/-- Each name of references has a last one. -/
theorem exists_refersTo (h : IsAlias ds name) : ∃ target, RefersTo ds name target := by
  induction ds with
  | nil =>
    obtain ⟨d, hd, -⟩ := h
    cases hd
  | cons d rest ih =>
    by_cases hrest : IsAlias rest name
    · obtain ⟨target, before, e, after, rfl, he⟩ := ih hrest
      exact ⟨target, d :: before, e, after, rfl, he⟩
    · obtain ⟨hname, hself⟩ := isAlias_singleton.1
        ((isAlias_append.1 (h : IsAlias ([d] ++ rest) name)).resolve_right hrest)
      cases hs : d.source <;> rw [hs] at hself <;> first
        | exact hself.elim
        | exact ⟨_, [], d, rest, rfl, hname, hs, hrest⟩

theorem get?_references (ds : List Descriptor) (name : String) :
    (OrderedMap.ofList (references ds)).get? name = (references ds).reverse.lookup name := by
  rw [OrderedMap.ofList, get?_insertAll, get?_empty, Option.or_none]

theorem RefersTo.get?_references (h : RefersTo ds name target) :
    (OrderedMap.ofList (references ds)).get? name = some target := by
  obtain ⟨before, d, after, rfl, rfl, hs, hafter⟩ := h
  have hnone : (references after).reverse.lookup d.name = none := by
    rw [← Option.not_isSome_iff_eq_none, lookup_isSome_iff, List.map_reverse, List.mem_reverse, ← isAlias_iff]
    exact hafter
  rw [ActivityLog.get?_references, references_append, references_cons_of_self hs, List.reverse_append,
    List.reverse_cons, List.lookup_append, List.lookup_append, hnone]
  simp

/-- **The map of the references holds the last target under each name.** -/
theorem get?_references_iff : (OrderedMap.ofList (references ds)).get? name = some target ↔ RefersTo ds name target := by
  refine ⟨fun h => ?_, RefersTo.get?_references⟩
  have hname : IsAlias ds name := by
    rw [isAlias_iff, ← mem_keys_ofList, ← contains_iff, contains, h]
    rfl
  obtain ⟨last, hlast⟩ := exists_refersTo hname
  rw [hlast.get?_references, Option.some.injEq] at h
  rwa [h] at hlast

/-! ## Whose turn comes first -/

/-- Of two names of references one comes up first. -/
theorem comesFirst_total (ha : IsAlias ds name) (hne : target ≠ name) :
    ComesFirst ds target name ∨ ComesFirst ds name target := by
  induction ds with
  | nil =>
    obtain ⟨d, hd, -⟩ := ha
    cases hd
  | cons d rest ih =>
    by_cases hname : IsAlias [d] name
    · refine .inr ⟨[d], rest, rfl, hname, fun htarget => hne ?_⟩
      exact (isAlias_singleton.1 htarget).1.symm.trans (isAlias_singleton.1 hname).1
    by_cases htarget : IsAlias [d] target
    · exact .inl ⟨[d], rest, rfl, htarget, hname⟩
    have hcons {a b : String} (hb : ¬IsAlias [d] b) (h : ComesFirst rest a b) : ComesFirst (d :: rest) a b := by
      obtain ⟨before, after, rfl, hfirst, hlater⟩ := h
      refine ⟨d :: before, after, rfl, ?_, ?_⟩
      · exact isAlias_append.2 (.inr hfirst : IsAlias [d] a ∨ IsAlias before a)
      · exact fun h => (isAlias_append.1 (h : IsAlias ([d] ++ before) b)).elim hb hlater
    have hrest : IsAlias rest name := (isAlias_append.1 (ha : IsAlias ([d] ++ rest) name)).resolve_left hname
    exact (ih hrest).imp (hcons hname) (hcons htarget)

/-- The name that comes up first has its place before the other one. -/
theorem mem_of_comesFirst {before after : List String} (h : ComesFirst ds target name)
    (hkeys : (OrderedMap.ofList (references ds)).keys = before ++ name :: after) : target ∈ before := by
  obtain ⟨first, rest, rfl, htarget, hname⟩ := h
  rw [isAlias_iff, ← mem_keys_ofList] at htarget hname
  have hfirst : (OrderedMap.ofList (references first)).keys <+: before ++ name :: after := by
    rw [← hkeys, references_append, OrderedMap.ofList, OrderedMap.ofList, insertAll, insertAll, List.foldl_append]
    exact keys_isPrefix_insertAll _ _
  have hupto : before ++ [name] <+: before ++ name :: after := ⟨after, by simp⟩
  rcases List.prefix_or_prefix_of_prefix hfirst hupto with hle | hle
  · refine (List.mem_append.1 (hle.mem htarget)).resolve_right fun heq => hname ?_
    rwa [← List.mem_singleton.1 heq]
  · exact absurd (hle.mem (List.mem_append_right _ List.mem_cons_self)) hname

/-- **The copies are made in the order in which their names first came up.** -/
theorem mem_before_iff {before after : List String}
    (hkeys : (OrderedMap.ofList (references ds)).keys = before ++ name :: after) :
    target ∈ before ↔ ComesFirst ds target name := by
  refine ⟨fun hmem => ?_, fun h => mem_of_comesFirst h hkeys⟩
  have hnodup := wellFormed_ofList (references ds)
  rw [OrderedMap.WellFormed, hkeys] at hnodup
  have hne : target ≠ name := by
    rintro rfl
    exact (List.nodup_append.1 hnodup).2.2 target hmem target List.mem_cons_self rfl
  have hname : IsAlias ds name := by
    rw [isAlias_iff, ← mem_keys_ofList, hkeys]
    exact List.mem_append_right _ List.mem_cons_self
  refine (comesFirst_total hname hne).resolve_right fun hlater => ?_
  -- Then the name would have its place before that of the target, too.
  obtain ⟨front, back, rfl⟩ := List.append_of_mem hmem
  have hkeys' : (OrderedMap.ofList (references ds)).keys = front ++ target :: (back ++ name :: after) := by
    rw [hkeys, List.append_assoc]
    rfl
  have hfront := mem_of_comesFirst hlater hkeys'
  exact (List.nodup_append.1 hnodup).2.2 name (List.mem_append_left _ hfront) name List.mem_cons_self rfl

/-! ## Copies, one after the other -/

/-- The record of a pass before the references are copied: that of the sweep, with the results of the batch. -/
def unlinked (env : Surface σ) (phase : Phase) (ds : List Descriptor) (record : Record) (s : σ) : Record :=
  let sw := Sweep.run env phase ds record s
  let b := Batch.run env phase sw.queue sw.record sw.state
  storeAll b.record b.results

theorem resolvePass_eq_unlinked : (resolvePass env phase ds record s).record =
    copyAliases (unlinked env phase ds record s) (OrderedMap.ofList (references ds)).entries := by
  have haliases : (Sweep.run env phase ds record s).aliases = .ofList (references ds) := Sweep.run_aliases ds s
  rw [← haliases]
  rfl

theorem unlinked_clean (phase : Phase) (hrecord : record.Clean) (hspares : env.Spares (functionsOf ds)) (s : σ) :
    (unlinked env phase ds record s).Clean := by
  have hsound := Sweep.run_sound phase (fun _ hd => hd) hspares hrecord s
  refine Clean.storeAll ?_ _
  rw [Batch.run, Batch.foldl_record phase hsound.ours hspares]
  exact hsound.clean

/-- Before the copies each name holds what the batch gave for it, and if that gave nothing what the sweep left. -/
theorem get?_unlinked (phase : Phase) (hspares : env.Spares (functionsOf ds)) (record : Record) (s : σ)
    (name : String) :
    let sw := Sweep.run env phase ds record s
    (unlinked env phase ds record s).get? name =
      ((Batch.run env phase sw.queue sw.record sw.state).results.lookup name).elim (sw.record.get? name)
        Value.toOption := by
  have hordered : Sweep.Ordered ds (Sweep.run env phase ds record s) :=
    Sweep.run_ordered env phase (fun _ hd => hd) record s
  have hrecord : (Batch.run env phase (Sweep.run env phase ds record s).queue (Sweep.run env phase ds record s).record
      (Sweep.run env phase ds record s).state).record = (Sweep.run env phase ds record s).record :=
    Batch.foldl_record phase hordered.ours hspares _
  rw [unlinked, get?_storeAll (Batch.nodup_results hordered.queue _ _), hrecord]

/-- A name of no reference holds in the end what it held before the copies. -/
theorem resolvePass_get?_of_not_alias (h : ¬IsAlias ds name) :
    (resolvePass env phase ds record s).record.get? name = (unlinked env phase ds record s).get? name := by
  rw [resolvePass_eq_unlinked, get?_copyAliases_of_not_mem]
  rwa [← OrderedMap.keys, mem_keys_ofList, ← isAlias_iff]

/-- A copy takes the final value of what had its turn before, and of all others what they held before the copies. -/
theorem get?_copyAliases_ofList {r : Record} (hr : r.Clean) (href : RefersTo ds name target) :
    let final := copyAliases r (OrderedMap.ofList (references ds)).entries
    (¬IsAlias ds target ∨ ComesFirst ds target name → final.get? name = final.get? target) ∧
    (IsAlias ds target ∧ ¬ComesFirst ds target name → final.get? name = r.get? target) := by
  have hnodup := wellFormed_ofList (references ds)
  obtain ⟨before, after, hentries, -⟩ := List.lookup_eq_some_iff.1 href.get?_references
  have hkeys : (OrderedMap.ofList (references ds)).keys =
      before.map Prod.fst ++ name :: after.map Prod.fst := by
    rw [OrderedMap.keys, hentries, List.map_append, List.map_cons]
  rw [OrderedMap.WellFormed, hkeys] at hnodup
  obtain ⟨-, hafter, hapart⟩ := List.nodup_append.1 hnodup
  have halias : IsAlias ds target ↔ target ∈ before.map Prod.fst ∨ target ∈ name :: after.map Prod.fst := by
    rw [isAlias_iff, ← mem_keys_ofList, hkeys, List.mem_append]
  dsimp only
  rw [hentries, get?_copyAliases_of_split hr (List.nodup_cons.1 hafter).1]
  refine ⟨fun h => ?_, fun h => ?_⟩
  · have hlater : target ∉ ((name, target) :: after).map Prod.fst := by
      intro hin
      rcases h with hnone | hfirst
      · exact hnone (halias.2 (.inr hin))
      · exact hapart target ((mem_before_iff hkeys).2 hfirst) target hin rfl
    rw [copyAliases_append, get?_copyAliases_of_not_mem hlater]
  · rw [get?_copyAliases_of_not_mem]
    rw [mem_before_iff hkeys]
    exact h.2

/-! ## One field among others -/

theorem resolvePass_clean (phase : Phase) (hrecord : record.Clean) (hspares : env.Spares (functionsOf ds)) (s : σ) :
    (resolvePass env phase ds record s).record.Clean := by
  rw [resolvePass_eq_unlinked]
  exact (unlinked_clean phase hrecord hspares s).copyAliases _

/-- A pass leaves names of no field alone. -/
theorem resolvePass_get?_of_unnamed (phase : Phase) (hspares : env.Spares (functionsOf ds)) (record : Record) (s : σ)
    (h : ∀ d ∈ ds, d.name ≠ name) : (resolvePass env phase ds record s).record.get? name = record.get? name := by
  have hsame : Sweep.SameAt name { record, state := s } (Sweep.run env phase ds record s) :=
    Sweep.foldl_sameAt phase (fun d hd heq => h d hd heq.symm) hspares _
  have halias : ¬IsAlias ds name := fun ⟨d, hd, hname, _⟩ => h d hd hname
  rw [resolvePass_get?_of_not_alias halias, get?_unlinked phase hspares,
    Batch.lookup_results_of_not_queued hsame.queue]
  exact hsame.record

/-- A reference to a name of no reference takes what that holds in the end. -/
theorem resolvePass_get?_of_refersTo (phase : Phase) (hrecord : record.Clean) (hspares : env.Spares (functionsOf ds))
    (s : σ) (href : RefersTo ds name target) (htarget : ¬IsAlias ds target) :
    (resolvePass env phase ds record s).record.get? name = (resolvePass env phase ds record s).record.get? target := by
  have hcopied := (get?_copyAliases_ofList (unlinked_clean phase hrecord hspares s) href).1 (.inl htarget)
  rwa [← resolvePass_eq_unlinked] at hcopied

section Split

variable {before after : List Descriptor} {d : Descriptor} (phase) (hnames : ((before ++ d :: after).map (·.name)).Nodup)
  (hrecord : record.Clean) (hspares : env.Spares (functionsOf (before ++ d :: after))) (s : σ)
  (hself : ¬d.source.IsSelf)

include hnames hself in
/-- A field of a name of its own that is no reference makes no reference of its name. -/
theorem not_isAlias_of_split : ¬IsAlias (before ++ d :: after) d.name := by
  rintro ⟨e, he, hname, heself⟩
  rw [List.inj_on_of_nodup_map hnames he (List.mem_append_right _ List.mem_cons_self) hname] at heself
  exact hself heself

include hnames hrecord hspares hself

/-- **What a pass makes of a field that does not wait**, whatever functions answer: what its source left, else its
default. -/
theorem resolvePass_get?_of_split (hspecial : d.source ≠ .special ∨ d.fallback = none)
    (hwaits : ¬d.Waits (Primary.onto (Sweep.turn env phase (Sweep.run env phase before record s) d)
      (record.get? d.name))) :
    (resolvePass env phase (before ++ d :: after) record s).record.get? d.name =
      (Primary.onto (Sweep.turn env phase (Sweep.run env phase before record s) d) (record.get? d.name)).or
        d.defaulted := by
  have hnot := Source.not_self_of_not_isSelf hself
  have hqueue : (Sweep.run env phase (before ++ d :: after) record s).queue.get? d.name = none := by
    rw [Sweep.run_queue_of_not_waits phase hnames hrecord hspares s hnot hwaits, Sweep.enqueueSpecial_of_not hspecial,
      (Sweep.turn_sameAt phase hnames hspares s).queue]
    rfl
  rw [resolvePass_get?_of_not_alias (not_isAlias_of_split hnames hself), get?_unlinked phase hspares,
    Batch.lookup_results_of_not_queued hqueue]
  exact Sweep.run_get?_of_split phase hnames hrecord hspares s hnot

/-- A mandatory field with a default is there in the end, unless it is special. -/
theorem resolvePass_isSome_of_default (hspecial : d.source ≠ .special ∨ d.fallback = none) (hm : d.mandatory = true)
    (hdefault : d.default ≠ .null) :
    ((resolvePass env phase (before ++ d :: after) record s).record.get? d.name).isSome := by
  have hwaits := resolvePass_get?_of_split phase hnames hrecord hspares s hself hspecial fun h => hdefault h.2.2
  have hdefaulted : d.defaulted = some d.default := by simp [Descriptor.defaulted, hm, Value.toOption_of_ne hdefault]
  rw [hwaits, hdefaulted, Option.isSome_or]
  exact Bool.or_true _

end Split

/-! ## What belongs to a reference -/

/-- The field without what does not matter if it is a reference: its default, its fallback, and whether it has to be
there. -/
def Descriptor.stripped (d : Descriptor) : Descriptor :=
  match d.source with
  | .self target => { name := d.name, source := .self target }
  | _ => d

theorem Sweep.step_stripped (env : Surface σ) (phase : Phase) (sw : Sweep σ) (d : Descriptor) :
    step env phase sw d.stripped = step env phase sw d := by
  unfold Descriptor.stripped
  split
  · next h =>
    rw [step_of_self h]
    rfl
  · rfl

theorem resolvePass_stripped (env : Surface σ) (phase : Phase) (ds : List Descriptor) (record : Record) (s : σ) :
    resolvePass env phase (ds.map Descriptor.stripped) record s = resolvePass env phase ds record s := by
  have hsweep : Sweep.run env phase (ds.map Descriptor.stripped) record s = Sweep.run env phase ds record s := by
    unfold Sweep.run
    rw [List.foldl_map]
    simp only [Sweep.step_stripped]
  unfold resolvePass
  rw [hsweep]

/-- **What references make of a record.** Names may stand more than once, and references may follow each other or go
round in a circle. In the end

- a name of no reference holds what it held before the copies;
- a name of a reference has a last one, and holds what the target of that one holds in the end, if the target is no
  reference's name, or one whose first reference stands before the first one of this name;
- otherwise it holds what that target held before the copies.

What is absent there is absent here. Nothing else in the description of a reference has an effect. -/
theorem resolvePass_references (phase : Phase) (s : σ) (hrecord : record.Clean)
    (hspares : env.Spares (functionsOf ds)) :
    let before := unlinked env phase ds record s
    let final := (resolvePass env phase ds record s).record
    (∀ name, ¬IsAlias ds name → final.get? name = before.get? name) ∧
    (∀ name, IsAlias ds name → ∃ target, RefersTo ds name target) ∧
    (∀ name target, RefersTo ds name target →
      (¬IsAlias ds target ∨ ComesFirst ds target name → final.get? name = final.get? target) ∧
      (IsAlias ds target ∧ ¬ComesFirst ds target name → final.get? name = before.get? target)) ∧
    resolvePass env phase (ds.map Descriptor.stripped) record s = resolvePass env phase ds record s := by
  refine ⟨fun _ => resolvePass_get?_of_not_alias, fun _ => exists_refersTo, fun name target href => ?_,
    resolvePass_stripped env phase ds record s⟩
  have hvalue := get?_copyAliases_ofList (unlinked_clean phase hrecord hspares s) href
  rwa [← resolvePass_eq_unlinked] at hvalue

/-- Fields of a completion that refer to each other in a circle, `first` twice: its place is that of its first
reference, its target that of its last one. -/
def circularFields : List Descriptor :=
  [⟨"first", .self "second", true, .text "lost", none⟩,
    ⟨"second", .self "status", false, .null, none⟩,
    ⟨"status", .special, true, .null, some (.script (.const (some (.int 200))))⟩,
    ⟨"third", .self "first", false, .null, none⟩,
    ⟨"first", .self "third", true, .text "lost", none⟩]

/-- The references at these fields: `first` takes what `third` held before, and `third` what `first` holds then. -/
theorem resolvePass_references_circle :
    Clean ⟨[("third", .text "old")]⟩ ∧ completionSurface.Spares (functionsOf circularFields) ∧
    let final := (resolvePass completionSurface .post circularFields ⟨[("third", .text "old")]⟩ {}).record
    final.get? "first" = some (.text "old") ∧ final.get? "second" = some (.int 200) ∧
    final.get? "third" = some (.text "old") ∧ final.get? "status" = some (.int 200) := by
  have hrecord : Clean ⟨[("third", .text "old")]⟩ := by
    intro name h
    simp only [get?, lookup_cons_ite] at h
    split at h <;> cases h
  have hspares : completionSurface.Spares (functionsOf circularFields) := by
    intro f hf record s
    rw [show functionsOf circularFields = [.script (.const (some (.int 200)))] from rfl, List.mem_singleton] at hf
    rw [hf]
    rfl
  obtain ⟨hother, -, halias, -⟩ := resolvePass_references .post {} hrecord hspares
  have hstatus : ¬IsAlias circularFields "status" := by rw [isAlias_iff]; decide
  have hfirst : RefersTo circularFields "first" "third" :=
    ⟨[_, _, _, _], _, [], rfl, rfl, rfl, by rw [isAlias_iff]; decide⟩
  have hsecond : RefersTo circularFields "second" "status" :=
    ⟨[_], _, [_, _, _], rfl, rfl, rfl, by rw [isAlias_iff]; decide⟩
  have hthird : RefersTo circularFields "third" "first" :=
    ⟨[_, _, _], _, [_], rfl, rfl, rfl, by rw [isAlias_iff]; decide⟩
  have hturn : ComesFirst circularFields "first" "third" :=
    ⟨[_], _, rfl, by rw [isAlias_iff]; decide, by rw [isAlias_iff]; decide⟩
  have hnot : ¬ComesFirst circularFields "third" "first" := by
    have hkeys : (OrderedMap.ofList (references circularFields)).keys = [] ++ "first" :: ["second", "third"] := rfl
    rw [← mem_before_iff hkeys]
    decide
  have hheld := (halias "first" "third" hfirst).2 ⟨isAlias_iff.2 (by decide), hnot⟩
  refine ⟨hrecord, hspares, hheld, ?_, ?_, hother "status" hstatus⟩
  · exact ((halias "second" "status" hsecond).1 (.inl hstatus)).trans (hother "status" hstatus)
  · exact ((halias "third" "first" hthird).1 (.inr hturn)).trans hheld

end ActivityLog
