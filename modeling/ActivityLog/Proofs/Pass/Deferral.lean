import ActivityLog.Proofs.Pass.Failures

/-!
# Deferred fields may stand anywhere

References, and special fields that no default is filled in for, come to something after the sweep only. Moved to other
places among the fields (`Moved`) they make no difference to the record and to what is noted: `resolvePass_moved`.

- A special field of this kind leaves the sweep as it is but for an entry of the queue and a remark, which depend on
  what its name held before the pass (`Descriptor.puts`). So the sweep is that over the other fields, with these entries
  and remarks beside (`Sweep.Beside.foldl`).
- The batch is one result and one remark for each entry of the queue, in whatever order (`Batch.foldl_notes`).
- The references are copied in their own order.
-/

namespace ActivityLog

open OrderedMap

variable {σ : Type} {env : Surface σ} {phase : Phase} {I : σ → Prop} {S : σ → σ → Prop}
  {given : FieldFunction → Record → Except Failure Value} {record : Record} {s : σ} {d : Descriptor}
  {ds ds' : List Descriptor} {fs : List FieldFunction} {queue : FallbackQueue}

/-! ## Deferred fields -/

/-- The field is a reference. -/
def Descriptor.isReference (d : Descriptor) : Bool :=
  match d.source with
  | .self _ => true
  | _ => false

/-- The field is special, and no default is filled in for it. -/
def Descriptor.isLate (d : Descriptor) : Bool :=
  match d.source with
  | .special => !d.mandatory || d.default.isNull
  | _ => false

/-- The field comes to something after the sweep only. -/
def Descriptor.isDeferred (d : Descriptor) : Bool := d.isReference || d.isLate

/-- The second list is the first one with deferred fields in other places. References keep their order among themselves,
and so do all fields that are not deferred. -/
structure Moved (ds ds' : List Descriptor) : Prop where
  perm : ds'.Perm ds
  references : ds'.filter Descriptor.isReference = ds.filter Descriptor.isReference
  others : ds'.filter (fun d => !d.isDeferred) = ds.filter (fun d => !d.isDeferred)

theorem Descriptor.exists_self_of_isReference (h : d.isReference = true) : ∃ target, d.source = .self target := by
  unfold isReference at h
  split at h
  · next target hs => exact ⟨target, hs⟩
  · cases h

theorem Descriptor.not_self_of_not_isReference (h : d.isReference = false) (target : String) :
    d.source ≠ .self target := by
  intro hs
  rw [isReference, hs] at h
  cases h

theorem Descriptor.isLate_of_isReference (h : d.isReference = true) : d.isLate = false := by
  obtain ⟨target, hs⟩ := exists_self_of_isReference h
  rw [isLate, hs]

theorem Descriptor.special_of_isLate (h : d.isLate = true) :
    d.source = .special ∧ (d.mandatory = false ∨ d.default = .null) := by
  unfold isLate at h
  split at h
  · next hs => exact ⟨hs, by simpa [Value.isNull_iff] using h⟩
  · cases h

/-- The references are found among the fields that are references. -/
theorem references_filter (ds : List Descriptor) : references (ds.filter Descriptor.isReference) = references ds := by
  induction ds with
  | nil => rfl
  | cons d rest ih =>
    cases h : d.isReference with
    | true =>
      obtain ⟨target, hs⟩ := Descriptor.exists_self_of_isReference h
      rw [List.filter_cons_of_pos h, references_cons_of_self hs, references_cons_of_self hs, ih]
    | false =>
      rw [List.filter_cons_of_neg (by simp [h]), references_cons_of_not_self (d.not_self_of_not_isReference h), ih]

/-! ## What a field puts off -/

/-- What filling in a field puts off and notes. -/
def Descriptor.puts (phase : Phase) (record : Record) (d : Descriptor) :
    List (String × Option FieldFunction) × List Diagnostic :=
  let filled := applyDefaults phase d record (Sweep.enqueueSpecial d {})
  (filled.2.1.entries, filled.2.2)

theorem entries_insert_of_not_mem {β : Type} {m : OrderedMap β} {name : String} (h : m.get? name = none) (v : β) :
    (m.insert name v).entries = m.entries ++ [(name, v)] := by
  have hnone : m.contains name = false := by rw [contains, h]; rfl
  rw [OrderedMap.insert, if_neg (by simp [hnone])]

namespace Sweep

/-- A special field puts its entry behind the others, if it is none of theirs. -/
theorem entries_enqueueSpecial (h : queue.get? d.name = none) :
    (enqueueSpecial d queue).entries = queue.entries ++ (enqueueSpecial d {}).entries := by
  unfold enqueueSpecial
  split
  · rw [entries_insert_of_not_mem h]
    rfl
  · exact (List.append_nil _).symm

theorem entries_insert_enqueueSpecial (h : queue.get? d.name = none) :
    ((enqueueSpecial d queue).insert d.name d.fallback).entries = queue.entries ++ [(d.name, d.fallback)] := by
  rcases enqueueSpecial_cases d queue with hq | hq <;> rw [hq]
  · exact entries_insert_of_not_mem h _
  · rw [insert_insert]
    exact entries_insert_of_not_mem h _

/-- Filling in a field puts its entry behind the others, if it is none of theirs; nothing else depends on the queue. -/
theorem applyDefaults_enqueued (phase : Phase) (record : Record) (h : queue.get? d.name = none) :
    (applyDefaults phase d record (enqueueSpecial d queue)).1 =
        (applyDefaults phase d record (enqueueSpecial d {})).1 ∧
      (applyDefaults phase d record (enqueueSpecial d queue)).2.1.entries = queue.entries ++ (d.puts phase record).1 ∧
      (applyDefaults phase d record (enqueueSpecial d queue)).2.2 = (d.puts phase record).2 := by
  unfold Descriptor.puts applyDefaults
  split
  · exact ⟨rfl, entries_enqueueSpecial h, rfl⟩
  · split
    · exact ⟨rfl, entries_enqueueSpecial h, rfl⟩
    · refine ⟨rfl, ?_, rfl⟩
      show _ = queue.entries ++ ((enqueueSpecial d {}).insert d.name d.fallback).entries
      rw [entries_insert_enqueueSpecial h, entries_insert_enqueueSpecial rfl]
      rfl

/-- A field that no default is filled in for leaves the record alone. -/
theorem applyDefaults_record_of_late (h : d.mandatory = false ∨ d.default = .null) :
    (applyDefaults phase d record queue).1 = record := by
  unfold applyDefaults
  split
  · rfl
  · next hm =>
    rcases h with h | h
    · simp [h] at hm
    · simp [h, Value.isNull]

/-- What filling in a field puts off and notes depends on what its name holds. -/
theorem puts_congr {record' : Record} (h : record'.value d.name = record.value d.name) :
    d.puts phase record' = d.puts phase record := by
  unfold Descriptor.puts applyDefaults
  rw [h]
  split
  · rfl
  · split <;> rfl

end Sweep

/-! ## The sweep without what is deferred -/

/-- As far as the relation tells, states that are alike stay alike, whatever is read and called in both of them, and it
makes no difference whether functions have been heard. -/
structure Surface.Overlooks (env : Surface σ) (S : σ → σ → Prop) (phase : Phase) (fs : List FieldFunction) : Prop
    extends env.Simulates env S phase fs where
  hearing : ∀ s t, S s t → S (env.heard s).2 t

namespace Sweep

/-- A sweep, and one that has come to the same without some entries of its queue and some of its remarks. -/
structure Beside (S : σ → σ → Prop) (entries : List (String × Option FieldFunction)) (remarks : List Diagnostic)
    (sw sw' : Sweep σ) : Prop where
  record : sw.record = sw'.record
  state : S sw.state sw'.state
  queue : sw.queue.entries.Perm (sw'.queue.entries ++ entries)
  notes : sw.notes.Perm (sw'.notes ++ remarks)

variable {sw sw' : Sweep σ} {entries : List (String × Option FieldFunction)} {remarks : List Diagnostic}

theorem Beside.reference (h : Beside S entries remarks sw sw') (hd : d.isReference = true) :
    Beside S entries remarks (step env phase sw d) sw' := by
  obtain ⟨target, hs⟩ := Descriptor.exists_self_of_isReference hd
  rw [step_of_self hs]
  exact ⟨h.record, h.state, h.queue, h.notes⟩

/-- A special field that no default is filled in for adds its entry and its remark to those beside. -/
theorem Beside.late (h : Beside S entries remarks sw sw') (hsilent : ∀ s, (env.heard s).1 = [])
    (hhearing : ∀ s t, S s t → S (env.heard s).2 t) (hd : d.isLate = true) (hnew : sw.queue.get? d.name = none) :
    Beside S (entries ++ (d.puts phase sw.record).1) (remarks ++ (d.puts phase sw.record).2) (step env phase sw d)
      sw' := by
  obtain ⟨hs, hlate⟩ := Descriptor.special_of_isLate hd
  have hself : ∀ target, d.source ≠ .self target := by simp [hs]
  have hprimary : d.source.primary env phase sw.record sw.state = (.ok .unresolved, sw.record, sw.state) := by
    rw [hs]
    rfl
  obtain ⟨-, hqueue, hnotes⟩ := applyDefaults_enqueued phase sw.record hnew
  rw [step_of_not_self hself, hprimary]
  refine ⟨?_, hhearing _ _ h.state, ?_, ?_⟩
  · exact (applyDefaults_record_of_late hlate).trans h.record
  · show (applyDefaults phase d sw.record (enqueueSpecial d sw.queue)).2.1.entries.Perm _
    rw [hqueue, ← List.append_assoc]
    exact h.queue.append_right _
  · show (sw.notes ++ (env.heard sw.state).1 ++ [] ++
      (applyDefaults phase d sw.record (enqueueSpecial d sw.queue)).2.2).Perm _
    rw [hnotes, hsilent, List.append_nil, List.append_nil, ← List.append_assoc]
    exact h.notes.append_right _

/-- Any other field does the same in both sweeps. -/
theorem Beside.step (h : Beside S entries remarks sw sw') (hsilent : ∀ s, (env.heard s).1 = [])
    (hsame : env.Simulates env S phase d.functions) (hd : d.isReference = false) (hnew : sw.queue.get? d.name = none) :
    Beside S entries remarks (step env phase sw d) (Sweep.step env phase sw' d) := by
  have hself := Descriptor.not_self_of_not_isReference hd
  have hnew' : sw'.queue.get? d.name = none := by
    rw [get?_eq_none_iff, keys] at hnew ⊢
    exact fun hmem => hnew ((h.queue.map Prod.fst).mem_iff.2 (by simp [hmem]))
  have hlater {α : Type} {mixed own others : List α} (hp : mixed.Perm (own ++ others)) (more : List α) :
      (mixed ++ more).Perm (own ++ more ++ others) := by
    simpa using perm_append_apart hp [] more
  obtain ⟨hvalue, hleft, hafter⟩ := Source.primary_simulates (hsame.mono d.mem_functions_of_source) sw.record h.state
  rw [step_of_not_self hself, step_of_not_self hself, ← h.record]
  dsimp only
  rw [← hvalue, ← hleft]
  generalize write phase d.name (d.source.primary env phase sw.record sw.state).1
    (d.source.primary env phase sw.record sw.state).2.1 = given
  obtain ⟨hrecord, hqueue, hnotes⟩ := applyDefaults_enqueued phase given.1 hnew
  obtain ⟨hrecord', hqueue', hnotes'⟩ := applyDefaults_enqueued phase given.1 hnew'
  refine ⟨hrecord.trans hrecord'.symm, hsame.heard _ _ hafter, ?_, ?_⟩
  · dsimp only
    rw [hqueue, hqueue']
    exact hlater h.queue _
  · dsimp only
    rw [hnotes, hnotes', hsilent, hsilent, List.append_nil, List.append_nil]
    exact hlater (hlater h.notes _) _

/-- The special fields among them that no default is filled in for. -/
def lateOf (ds : List Descriptor) : List Descriptor := ds.filter Descriptor.isLate

/-- **The sweep is that over the fields that are not deferred, with the entries and the remarks of special ones
beside.** -/
theorem Beside.foldl (h : Beside S entries remarks sw sw') (hsilent : ∀ s, (env.heard s).1 = [])
    (hsame : env.Overlooks S phase (functionsOf ds)) (hnames : (ds.map (·.name)).Nodup)
    (hspares : env.Spares (functionsOf ds)) (hnew : ∀ d ∈ ds, sw.queue.get? d.name = none)
    (hheld : ∀ d ∈ ds, sw.record.value d.name = record.value d.name) :
    Beside S (entries ++ (lateOf ds).flatMap fun d => (d.puts phase record).1)
      (remarks ++ (lateOf ds).flatMap fun d => (d.puts phase record).2) (ds.foldl (Sweep.step env phase) sw)
      ((ds.filter fun d => !d.isDeferred).foldl (Sweep.step env phase) sw') := by
  induction ds generalizing sw sw' entries remarks with
  | nil => simpa [lateOf] using h
  | cons d ds ih =>
    obtain ⟨hd, hrest⟩ := List.nodup_cons.1 hnames
    have hfunctions : ∀ f ∈ d.functions, f ∈ functionsOf (d :: ds) := fun f => mem_functionsOf List.mem_cons_self
    have hne : ∀ e ∈ ds, e.name ≠ d.name := fun e he heq => hd (List.mem_map.2 ⟨e, he, heq⟩)
    have hnewrest : ∀ e ∈ ds, (Sweep.step env phase sw d).queue.get? e.name = none := by
      intro e he
      rw [step_queue_get?_of_ne (hne e he)]
      exact hnew e (List.mem_cons_of_mem _ he)
    have hheldrest : ∀ e ∈ ds, (Sweep.step env phase sw d).record.value e.name = record.value e.name := by
      intro e he
      rw [value, step_get?_of_ne (hspares.mono hfunctions) (hne e he)]
      exact hheld e (List.mem_cons_of_mem _ he)
    have hmono : ∀ f ∈ functionsOf ds, f ∈ functionsOf (d :: ds) := functionsOf_mono fun _ => List.mem_cons_of_mem d
    have hgo {entries remarks} {sw' : Sweep σ} (hstep : Beside S entries remarks (Sweep.step env phase sw d) sw') :=
      ih hstep ⟨hsame.toSimulates.mono hmono, hsame.hearing⟩ hrest (hspares.mono hmono) hnewrest hheldrest
    have hfirst := hnew d List.mem_cons_self
    cases hreference : d.isReference with
    | true =>
      have hlate := Descriptor.isLate_of_isReference hreference
      rw [lateOf, List.filter_cons_of_neg (by simp [hlate]),
        List.filter_cons_of_neg (by simp [Descriptor.isDeferred, hreference])]
      exact hgo (h.reference hreference)
    | false =>
      cases hlate : d.isLate with
      | true =>
        have hputs : d.puts phase sw.record = d.puts phase record := puts_congr (hheld d List.mem_cons_self)
        rw [lateOf, List.filter_cons_of_pos hlate, List.flatMap_cons, List.flatMap_cons,
          List.filter_cons_of_neg (by simp [Descriptor.isDeferred, hlate]), ← List.append_assoc, ← List.append_assoc,
          ← hputs]
        exact hgo (h.late hsilent hsame.hearing hlate hfirst)
      | false =>
        rw [lateOf, List.filter_cons_of_neg (by simp [hlate]),
          List.filter_cons_of_pos (by simp [Descriptor.isDeferred, hreference, hlate])]
        exact hgo (h.step hsilent (hsame.toSimulates.mono hfunctions) hreference hfirst)

end Sweep

/-! ## The batch, in any order -/

/-- Maps of the same entries hold the same. -/
theorem OrderedMap.get?_eq_of_perm {β : Type} {m m' : OrderedMap β} (h : m.WellFormed)
    (hp : m'.entries.Perm m.entries) (name : String) : m'.get? name = m.get? name := by
  have hkeys : m'.keys.Perm m.keys := hp.map Prod.fst
  cases hm : m.get? name with
  | none =>
    rw [get?_eq_none_iff] at hm ⊢
    rwa [hkeys.mem_iff]
  | some v =>
    obtain ⟨before, after, hentries, -⟩ := List.lookup_eq_some_iff.1 hm
    have hmem : (name, v) ∈ m'.entries := by
      rw [hp.mem_iff, hentries]
      exact List.mem_append_right _ List.mem_cons_self
    exact get?_of_mem (hkeys.nodup_iff.2 h) hmem

namespace Batch

/-- What is noted at the turn of a fallback whose result depends on the record alone. -/
def remark (given : FieldFunction → Record → Except Failure Value) (phase : Phase) (record : Record)
    (e : String × Option FieldFunction) : List Diagnostic :=
  match e.2.map fun f => given f record with
  | none => [.missingMandatory e.1 phase]
  | some (.ok _) => []
  | some (.error x) => [.resolutionFailed e.1 phase x]

/-- **A batch notes one thing for each entry of the queue.** -/
theorem foldl_notes (phase : Phase) {entries : List (String × Option FieldFunction)}
    (hours : ∀ name f, (name, some f) ∈ entries → f ∈ fs) (hspares : env.Spares fs) (hanswers : env.Answers I given fs)
    (hsilent : ∀ s, (env.heard s).1 = []) {b : Batch σ} (hs : I b.state) :
    (entries.foldl (step env phase) b).notes = b.notes ++ entries.flatMap (remark given phase b.record) := by
  induction entries generalizing b with
  | nil => exact (List.append_nil _).symm
  | cons e rest ih =>
    have hfirst : ∀ f, e.2 = some f → f ∈ fs := fun f hf => hours e.1 f (by rw [← hf]; exact List.mem_cons_self)
    obtain ⟨hrecord, hstate, -⟩ := step_eq phase hfirst hspares hanswers hs
    have hnoted : (step env phase b e).notes = b.notes ++ remark given phase b.record e := by
      obtain ⟨name, _ | f⟩ := e
      · rfl
      · have hgives := hanswers.gives f (hfirst f rfl) b.record b.state hs
        cases hg : given f b.record with
        | ok v =>
          rw [step_of_ok hspares (hfirst f rfl) (hgives.trans hg), remark, Option.map_some, hg]
          exact congrArg _ (hsilent _)
        | error x =>
          rw [step_of_error hspares (hfirst f rfl) (hgives.trans hg), remark, Option.map_some, hg]
          dsimp only
          rw [hsilent, List.append_nil]
    rw [List.foldl_cons, ih (fun n f hf => hours n f (List.mem_cons_of_mem _ hf)) hstate, hnoted, hrecord,
      List.append_assoc, List.flatMap_cons]

end Batch

/-! ## The whole pass -/

theorem Moved.functions (h : Moved ds ds') : ∀ f ∈ functionsOf ds', f ∈ functionsOf ds :=
  functionsOf_mono fun _ => h.perm.mem_iff.1

/-- A sweep as the fields that are not deferred leave it, and what special ones put off and note besides. -/
theorem Sweep.run_beside (record : Record) {s : σ} (hsilent : ∀ s, (env.heard s).1 = [])
    (hnames : (ds.map (·.name)).Nodup) (hspares : env.Spares (functionsOf ds))
    (hsame : env.Overlooks S phase (functionsOf ds)) (hS : S s s) :
    Beside S ((lateOf ds).flatMap fun d => (d.puts phase record).1)
      ((lateOf ds).flatMap fun d => (d.puts phase record).2) (run env phase ds record s)
      (run env phase (ds.filter fun d => !d.isDeferred) record s) := by
  have hstart : Beside S [] [] { record, state := s } { record, state := s } := ⟨rfl, hS, .nil, .nil⟩
  exact hstart.foldl hsilent hsame hnames hspares (fun _ _ => rfl) fun _ _ => rfl

/-- A pass on a surface whose functions have nothing to say. -/
theorem resolvePass_moved_of_silent (phase : Phase) (record : Record) {s : σ} (hsilent : ∀ s, (env.heard s).1 = [])
    (hnames : (ds.map (·.name)).Nodup) (hspares : env.Spares (functionsOf ds))
    (hanswers : env.Answers I given (functionsOf ds)) (hs : I s) (hsame : env.Overlooks S phase (functionsOf ds))
    (hS : S s s) (hmoved : Moved ds ds') :
    (∀ name, (resolvePass env phase ds' record s).record.get? name =
      (resolvePass env phase ds record s).record.get? name) ∧
    (resolvePass env phase ds' record s).notes.Perm (resolvePass env phase ds record s).notes := by
  have hnames' : (ds'.map (·.name)).Nodup := (hmoved.perm.map _).nodup_iff.2 hnames
  have hspares' := hspares.mono hmoved.functions
  have hanswers' := hanswers.mono hmoved.functions
  have hsame' : env.Overlooks S phase (functionsOf ds') :=
    ⟨hsame.toSimulates.mono hmoved.functions, hsame.hearing⟩
  let sw := Sweep.run env phase ds record s
  let sw' := Sweep.run env phase ds' record s
  have hordered : Sweep.Ordered ds sw := Sweep.run_ordered env phase (fun _ hd => hd) record s
  have hordered' : Sweep.Ordered ds' sw' := Sweep.run_ordered env phase (fun _ hd => hd) record s
  have hbeside := Sweep.run_beside record hsilent hnames hspares hsame hS
  have hbeside' := Sweep.run_beside record hsilent hnames' hspares' hsame' hS
  rw [hmoved.others] at hbeside'
  have hlate : (Sweep.lateOf ds').Perm (Sweep.lateOf ds) := hmoved.perm.filter _
  have hrecord : sw'.record = sw.record := hbeside'.record.trans hbeside.record.symm
  have hqueue : sw'.queue.entries.Perm sw.queue.entries :=
    hbeside'.queue.trans (((hlate.flatMap_right _).append_left _).trans hbeside.queue.symm)
  have hnotes : sw'.notes.Perm sw.notes :=
    hbeside'.notes.trans (((hlate.flatMap_right _).append_left _).trans hbeside.notes.symm)
  refine ⟨?record, ?notes⟩
  case record =>
    have haliases : sw'.aliases = sw.aliases := by
      have href : sw.aliases = .ofList (references ds) := Sweep.run_aliases ds s
      have href' : sw'.aliases = .ofList (references ds') := Sweep.run_aliases ds' s
      rw [href, href', ← references_filter ds', hmoved.references, references_filter]
    have hsettled : ∀ name, (sw'.settled given).get? name = (sw.settled given).get? name := by
      intro name
      rw [Sweep.get?_settled hordered'.queue, Sweep.get?_settled hordered.queue, hrecord,
        get?_eq_of_perm hordered.queue hqueue]
    rw [resolvePass_record hspares' hanswers' hs, resolvePass_record hspares hanswers hs]
    rw [show (Sweep.run env phase ds' record s).aliases = (Sweep.run env phase ds record s).aliases from haliases]
    exact fun name => get?_copyAliases_of_closed (P := fun _ => True) (fun _ _ _ => trivial)
      (fun x _ => hsettled x) name trivial
  case notes =>
    have hbatch (b : Batch σ) (hb : I b.state) := Batch.foldl_notes phase hordered.ours hspares hanswers hsilent hb
    have hbatch' (b : Batch σ) (hb : I b.state) :=
      Batch.foldl_notes phase hordered'.ours hspares' hanswers' hsilent hb
    show (sw'.notes ++ (Batch.run env phase sw'.queue sw'.record sw'.state).notes).Perm
      (sw.notes ++ (Batch.run env phase sw.queue sw.record sw.state).notes)
    rw [Batch.run, Batch.run, hbatch _ (Sweep.run_state hanswers hs), hbatch' _ (Sweep.run_state hanswers' hs), hrecord]
    exact hnotes.append (hqueue.flatMap_right _)

/-! ## Functions that have something to say -/

theorem Surface.Spares.overheard (h : env.Spares fs) : env.overheard.Spares fs :=
  fun f hf record s => h f hf record s.1

theorem Surface.Answers.overheard (h : env.Answers I given fs) : env.overheard.Answers (fun s => I s.1) given fs :=
  ⟨fun phase name s => h.header phase name s.1, fun phase name s => h.field phase name s.1, fun s => h.heard s.1,
    fun f hf record s => h.call f hf record s.1, fun f hf record s => h.gives f hf record s.1⟩

theorem Surface.Overlooks.overheard (h : env.Overlooks S phase fs) :
    env.overheard.Overlooks (fun s t => S s.1 t.1) phase fs :=
  ⟨⟨fun name s t => h.header name s.1 t.1, fun name s t => h.field name s.1 t.1,
    fun f hf record s t => h.call f hf record s.1 t.1, fun s t => h.heard s.1 t.1⟩, fun s t => h.hearing s.1 t.1⟩

/-- Where functions have nothing to say, nothing is overheard. -/
theorem resolvePass_overheard_of_silent (phase : Phase) (record : Record)
    (hanswers : env.Answers I given (functionsOf ds)) (hs : I s) (hsilent : ∀ s, I s → (env.heard s).1 = []) :
    (resolvePass env.overheard phase ds record (s, [])).state.2 = [] := by
  have hkeeps : env.overheard.Keeps (fun s => I s.1 ∧ s.2 = []) (functionsOf ds) := by
    refine ⟨?_, ?_, ?_, ?_⟩
    · exact fun phase name s h => ⟨hanswers.header phase name s.1 h.1, h.2⟩
    · exact fun phase name s h => ⟨hanswers.field phase name s.1 h.1, h.2⟩
    · exact fun f hf record s h => ⟨hanswers.call f hf record s.1 h.1, h.2⟩
    · intro s h
      refine ⟨hanswers.heard s.1 h.1, ?_⟩
      show s.2 ++ (env.heard s.1).1 = []
      rw [h.2, hsilent s.1 h.1]
      rfl
  exact (hkeeps.resolvePass phase record ⟨hs, rfl⟩).2

/-- **Deferred fields may stand anywhere.** Names are different, the record may have held anything, and functions leave
it alone and give what depends on its contents alone. In whatever places references and special fields without a
default to fill in stand, as long as references keep their order and all other fields do,

- the record is the same in the end at every name;
- the pass notes the same, in whatever order, apart from what its functions say meanwhile;
- so all that is noted is the same if they have nothing to say. -/
theorem resolvePass_moved (phase : Phase) (record : Record) (hnames : (ds.map (·.name)).Nodup)
    (hspares : env.Spares (functionsOf ds)) (hanswers : env.Answers I given (functionsOf ds)) (hs : I s)
    (hsame : env.Overlooks S phase (functionsOf ds)) (hS : S s s) (hmoved : Moved ds ds') :
    let final := resolvePass env phase ds record s
    let final' := resolvePass env phase ds' record s
    let own := resolvePass env.overheard phase ds record (s, [])
    let own' := resolvePass env.overheard phase ds' record (s, [])
    (∀ name, final'.record.get? name = final.record.get? name) ∧
    (final.notes.Perm (own.notes ++ own.state.2) ∧ final'.notes.Perm (own'.notes ++ own'.state.2) ∧
      own'.notes.Perm own.notes) ∧
    ((∀ s, I s → (env.heard s).1 = []) → final'.notes.Perm final.notes) := by
  intro final final' own own'
  obtain ⟨hrecord, hnotes⟩ := resolvePass_moved_of_silent phase record (fun _ => rfl) hnames hspares.overheard
    hanswers.overheard (s := (s, [])) hs hsame.overheard hS hmoved
  obtain ⟨⟨hown, -, hsaid⟩, -⟩ := resolvePass_overheard env phase ds record s
  obtain ⟨⟨hown', -, hsaid'⟩, -⟩ := resolvePass_overheard env phase ds' record s
  refine ⟨fun name => ?_, ⟨hsaid, hsaid', hnotes⟩, fun hsilent => ?_⟩
  · have hname := hrecord name
    rwa [hown, hown'] at hname
  · rw [resolvePass_overheard_of_silent phase record hanswers hs hsilent, List.append_nil] at hsaid
    rw [resolvePass_overheard_of_silent phase record (hanswers.mono hmoved.functions) hs hsilent,
      List.append_nil] at hsaid'
    exact hsaid'.trans (hnotes.trans hsaid.symm)

/-- Fields of a completion: the header cannot be read, and its field then waits without a fallback. -/
def scatteredFields : List Descriptor :=
  [⟨"copy", .self "status", false, .null, none⟩,
    ⟨"status", .special, true, .null, some (.script (.const (some (.int 500))))⟩,
    ⟨"type", .header "content-type", true, .null, none⟩,
    ⟨"seen", .special, false, .null, some (.script (.fail "ValueError" "late"))⟩,
    ⟨"again", .self "copy", false, .null, none⟩]

/-- The same fields, special ones at the ends. -/
def gatheredFields : List Descriptor :=
  [⟨"seen", .special, false, .null, some (.script (.fail "ValueError" "late"))⟩,
    ⟨"copy", .self "status", false, .null, none⟩,
    ⟨"again", .self "copy", false, .null, none⟩,
    ⟨"type", .header "content-type", true, .null, none⟩,
    ⟨"status", .special, true, .null, some (.script (.const (some (.int 500))))⟩]

/-- The move at these fields: both references get the fallback's result, and the four remarks come in another order. -/
theorem resolvePass_moved_gathered :
    (scatteredFields.map (·.name)).Nodup ∧ Moved scatteredFields gatheredFields ∧
    completionSurface.Spares (functionsOf scatteredFields) ∧
    completionSurface.Answers (fun w => w.diagnostics = []) (fun f record => (completionSurface.call f record {}).1)
      (functionsOf scatteredFields) ∧
    completionSurface.Overlooks (fun w w' => w.hosts = w'.hosts) .post (functionsOf scatteredFields) ∧
    let final := resolvePass completionSurface .post gatheredFields arrivedRecord {}
    final.record.get? "copy" = some (.int 500) ∧ final.record.get? "again" = some (.int 500) ∧
    final.notes.Perm
      [.fallingBack "status" .post, .resolutionFailed "type" .post (.fault .key "'content-type'"),
        .fallingBack "type" .post, .missingMandatory "type" .post,
        .resolutionFailed "seen" .post (.fault .value "late")] := by
  have hnames : (scatteredFields.map (·.name)).Nodup := by decide
  have hmoved : Moved scatteredFields gatheredFields := by
    have hplaces : [3, 0, 4, 2, 1].Perm [0, 1, 2, 3, 4] := by decide
    exact ⟨hplaces.map fun i => scatteredFields.getD i { name := "", source := .special }, rfl, rfl⟩
  have hrest : AtRest (functionsOf scatteredFields) := by
    rw [show functionsOf scatteredFields = [.script (.const (some (.int 500))), .script (.fail "ValueError" "late")]
      from rfl]
    simp only [AtRest, List.forall_mem_cons]
    exact ⟨fun _ _ => rfl, fun _ _ => rfl, fun _ hf => absurd hf List.not_mem_nil⟩
  have hanswers : completionSurface.Answers (fun w => w.diagnostics = [])
      (fun f record => (completionSurface.call f record {}).1) (functionsOf scatteredFields) := by
    refine ⟨fun _ _ _ h => h, fun _ _ _ h => h, fun _ _ => rfl, ?_, ?_⟩
    · intro f hf record w h
      rw [hrest f hf]
      exact h
    · intro f hf record w h
      rw [hrest f hf]
  have hsame : completionSurface.Overlooks (fun w w' => w.hosts = w'.hosts) .post (functionsOf scatteredFields) :=
    ⟨hrest.simulates, fun _ _ h => h⟩
  obtain ⟨hrecord, -, hnotes⟩ := resolvePass_moved .post arrivedRecord hnames hrest.spares hanswers (s := {}) rfl hsame
    rfl hmoved
  refine ⟨hnames, hmoved, hrest.spares, hanswers, hsame, ?_⟩
  dsimp only
  rw [hrecord, hrecord]
  exact ⟨rfl, rfl, hnotes fun _ h => h⟩

end ActivityLog
