import ActivityLog.Application
import ActivityLog.Proofs.Host.Headers
import ActivityLog.Proofs.Pass.References
import ActivityLog.Proofs.Pass.Simulation

/-!
# The built-in fields of an arrival

The built-in functions leave the record alone; they look at hosts and draw from the clock and the ids. So a pass over
the built-in fields leads onward (`Onward`): ids are drawn, and the headers of all hosts stay what they are. It records
the request's header as the correlation id, and if that is missing an id that it has drawn
(`resolvePass_correlationId`). No id is drawn twice (`World.idText_injective`).
-/

namespace ActivityLog

open OrderedMap Host

/-! ## Ids -/

/-- The number that hexadecimal digits stand for that follow those of `n`. Other characters do not count. -/
def Text.ofHexDigits (n : Nat) (cs : List Char) : Nat := cs.foldl (fun n c => (hexValue? c).elim n (16 * n + ·)) n

theorem Text.ofHexDigits_append (n : Nat) (cs ds : List Char) :
    ofHexDigits n (cs ++ ds) = ofHexDigits (ofHexDigits n cs) ds := List.foldl_append

theorem Text.ofHexDigits_replicate_zero (k : Nat) : ofHexDigits 0 (List.replicate k '0') = 0 := by
  induction k with
  | zero => rfl
  | succ k ih => exact ih

/-- The digits of a number stand for it. -/
theorem Text.ofHexDigits_toDigits (n : Nat) : ofHexDigits 0 (Nat.toDigits 16 n) = n := by
  have hdigit : ∀ d < 16, hexValue? (Nat.digitChar d) = some d := by decide
  induction n using Nat.strongRecOn with
  | ind n ih =>
    by_cases hn : n < 16
    · rw [Nat.toDigits_of_lt_base hn]
      simp [ofHexDigits, hdigit n hn]
    · rw [Nat.toDigits_of_base_le (by decide) (Nat.le_of_not_lt hn), ofHexDigits_append, ih (n / 16) (by omega),
        ofHexDigits]
      simp only [List.foldl_cons, List.foldl_nil, hdigit (n % 16) (Nat.mod_lt n (by decide)), Option.elim_some]
      omega

namespace World

theorem toList_idText (n : Nat) : (idText n).toList =
    (Text.hexList 32 n).take 8 ++ '-' :: (((Text.hexList 32 n).drop 8).take 4 ++ '-' ::
      (((Text.hexList 32 n).drop 12).take 4 ++ '-' :: (((Text.hexList 32 n).drop 16).take 4 ++ '-' ::
        (Text.hexList 32 n).drop 20))) := by
  rw [idText, String.toList_ofList]

/-- An id can be read back. -/
theorem ofHexDigits_idText (n : Nat) : Text.ofHexDigits 0 (idText n).toList = n := by
  have hdash (n : Nat) (cs : List Char) : Text.ofHexDigits n ('-' :: cs) = Text.ofHexDigits n cs := rfl
  have hglue (k m : Nat) (cs : List Char) : cs.take k ++ (cs.drop k).take m = cs.take (k + m) := List.take_add.symm
  rw [toList_idText]
  simp only [Text.ofHexDigits_append, hdash]
  simp only [← Text.ofHexDigits_append]
  rw [hglue 8 4, hglue 12 4, hglue 16 4, List.take_append_drop, Text.hexList, Text.ofHexDigits_append,
    Text.ofHexDigits_replicate_zero, Text.ofHexDigits_toDigits]

/-- **No two ids are the same.** -/
theorem idText_injective : Function.Injective idText :=
  have hread : Function.LeftInverse (fun s : String => Text.ofHexDigits 0 s.toList) idText := ofHexDigits_idText
  hread.injective

theorem idText_ne_empty (n : Nat) : idText n ≠ "" := by
  intro h
  have htext := toList_idText n
  rw [h] at htext
  exact List.append_ne_nil_of_right_ne_nil _ (List.cons_ne_nil _ _) htext.symm

end World

/-! ## Where arrivals lead -/

/-- Ids have been drawn, and hosts touched and looked at, but their headers are what they were. Logs that were there are
still there, and pipelines and cores are the same. -/
structure Onward (w w' : World) : Prop where
  headers : ∀ n, LooksAlike (w.hostOf n) (w'.hostOf n)
  serial : w.serial ≤ w'.serial
  logs : ∀ n, (w.lifecycles.get? n).isSome → (w'.lifecycles.get? n).isSome
  pipelines : w'.pipelines = w.pipelines
  cores : w'.cores = w.cores

instance : IsPreorder World Onward where
  refl _ := ⟨fun _ => .refl _, Nat.le_refl _, fun _ => id, rfl, rfl⟩
  trans _ _ _ h h' := ⟨fun n => (h.headers n).trans (h'.headers n), Nat.le_trans h.serial h'.serial,
    fun n hn => h'.logs n (h.logs n hn), h'.pipelines.trans h.pipelines, h'.cores.trans h.cores⟩

namespace Onward

variable {w w' : World} {id : Nat}

/-- Nothing happens to the hosts. -/
theorem of_hosts (hosts : w'.hosts = w.hosts) (serial : w.serial ≤ w'.serial)
    (logs : ∀ n, (w.lifecycles.get? n).isSome → (w'.lifecycles.get? n).isSome) (pipelines : w'.pipelines = w.pipelines)
    (cores : w'.cores = w.cores) : Onward w w' := by
  refine ⟨fun n => ?_, serial, logs, pipelines, cores⟩
  rw [World.hostOf, World.hostOf, hosts]
  exact .refl _

/-- Nothing happens to the logs either. -/
theorem of_same (hosts : w'.hosts = w.hosts) (serial : w.serial ≤ w'.serial) (logs : w'.lifecycles = w.lifecycles)
    (pipelines : w'.pipelines = w.pipelines) (cores : w'.cores = w.cores) : Onward w w' :=
  of_hosts hosts serial (fun n hn => by rwa [logs]) pipelines cores

theorem diagnostics (w : World) (ds : List Diagnostic) : Onward w { w with diagnostics := ds } :=
  of_same rfl (Nat.le_refl _) rfl rfl rfl

theorem withRecord (w : World) (id : Nat) (record : Record) : Onward w (w.withRecord id record) := by
  refine of_hosts rfl (Nat.le_refl _) (fun n hn => ?_) rfl rfl
  unfold World.withRecord
  rw [Table.get?_modify]
  split
  · rwa [Option.isSome_map]
  · exact hn

theorem setLifecycle (w : World) (id : Nat) (l : Lifecycle) :
    Onward w { w with lifecycles := w.lifecycles.set id l } := by
  refine of_hosts rfl (Nat.le_refl _) (fun n hn => ?_) rfl rfl
  rw [Table.get?_set]
  split
  · next h =>
    subst h
    rwa [Option.isSome_map]
  · exact hn

theorem addLifecycle (w : World) (l : Lifecycle) : Onward w { w with lifecycles := w.lifecycles.add l } := by
  refine of_hosts rfl (Nat.le_refl _) (fun n hn => ?_) rfl rfl
  rw [Table.get?_add]
  split
  · rfl
  · exact hn

/-- A host is replaced by one that offers the same headers. -/
theorem setHost {h' : Host} (hh : LooksAlike (w.hostOf id) h') :
    Onward w { w with hosts := w.hosts.set id h' } := by
  refine ⟨fun n => ?_, Nat.le_refl _, fun _ hn => hn, rfl, rfl⟩
  unfold World.hostOf at hh ⊢
  rw [Table.get?_set]
  split
  · next hn =>
    subst hn
    cases hw : w.hosts.get? n with
    | none => exact .refl _
    | some h =>
      rw [hw] at hh
      exact hh
  · exact .refl _

theorem look (w : World) (id : Nat) (name : String) : Onward w (w.look id name) := by
  refine ⟨fun n => ?_, Nat.le_refl _, fun _ hn => hn, rfl, rfl⟩
  unfold World.hostOf World.look
  rw [Table.get?_modify]
  split
  · cases w.hosts.get? n with
    | none => exact .refl _
    | some h => exact looksAlike_seen h name
  · exact .refl _

theorem of_touched {h h' : Host} (hw : w.hosts.get? id = some h) (ht : h.Touched h') :
    Onward w { w with hosts := w.hosts.set id h' } := by
  refine setHost ?_
  rw [World.hostOf, hw]
  exact looksAlike_touched ht

theorem adapter (id : Nat) : Act.Keeps Onward (Act.adapter id) := Touching.adapter fun _ _ _ => of_touched

theorem readStored (id : Nat) (name : String) : Act.Keeps Onward (Act.readStored id name) :=
  Touching.readStored (fun _ _ _ => of_touched) name

theorem readHeader (a : Adapter) (name : String) : Act.Keeps Onward (Act.readHeader a name) :=
  Touching.readHeader (fun _ _ _ => of_touched) rfl name

theorem writeField {name : String} (hname : name ∈ storedNames) (id : Nat) (v : Value) :
    Act.Keeps Onward (Act.writeField id name v) :=
  Touching.writeField (fun _ _ _ => of_touched) diagnostics hname v

end Onward

/-! ## What the functions do -/

namespace Builtin

variable (parties : Parties) (f : Builtin) (record : Record) (w : World)

theorem run_record : (f.run parties record w).2.1 = record := by cases f <;> rfl

/-- A built-in function draws from the clock or the ids, or looks at the request. -/
theorem onward_run : Onward w (f.run parties record w).2.2 := by
  have htick : Onward w w.tick.2 := by
    unfold World.tick
    split <;> exact .of_same rfl (Nat.le_refl _) rfl rfl rfl
  cases f with
  | receivedAt | sentAt => exact htick
  | newCorrelationId => exact .of_same rfl (Nat.le_succ _) rfl rfl rfl
  | requestPath => exact Onward.look w parties.request "url"
  | _ => exact refl_of Onward w

end Builtin

/-- A fresh id is the next one. -/
theorem call_newCorrelationId (a b : Adapter) (log : Option Nat) (record : Record) (w : World) :
    let called := (Application.surroundings.surface a b log).call Builtin.newCorrelationId.toFunction record w
    called.1 = .ok (.text (World.idText (w.serial + 1))) ∧ called.2.2.serial = w.serial + 1 := by
  cases log <;> exact ⟨rfl, rfl⟩

section Pass

variable {a b : Adapter} {log : Option Nat} {fs : List FieldFunction} (hfs : ∀ f ∈ fs, ∃ g, f = Builtin.toFunction g)

include hfs

theorem spares_builtins : (Application.surroundings.surface a b log).Spares fs := by
  intro f hf record w
  obtain ⟨g, rfl⟩ := hfs f hf
  exact g.run_record _ record _

theorem keeps_builtins (w : World) : (Application.surroundings.surface a b log).Keeps (Onward w) fs where
  header _ _ s hs := trans_of Onward hs (Onward.setHost (looksAlike_looked _ _))
  field _ _ s hs := trans_of Onward hs (Onward.setHost (looksAlike_seen _ _))
  call f hf record s hs := by
    obtain ⟨g, rfl⟩ := hfs f hf
    refine trans_of Onward hs (trans_of Onward ?_ (g.onward_run _ record _))
    cases log with
    | none => exact refl_of Onward s
    | some id => exact Onward.withRecord s id record
  heard s hs := trans_of Onward hs (Onward.diagnostics s [])

/-- A field that waits for a fresh id gets one, drawn in the batch. -/
theorem lookup_results_drawn {queue : FallbackQueue} (hqueue : queue.WellFormed)
    (hours : ∀ name f, (name, some f) ∈ queue.entries → f ∈ fs) {name : String}
    (hwaits : queue.get? name = some (some Builtin.newCorrelationId.toFunction)) (record : Record) (w : World) :
    let batch := Batch.run (Application.surroundings.surface a b log) .pre queue record w
    ∃ n ≤ batch.state.serial, batch.results.lookup name = some (.text (World.idText n)) := by
  intro batch
  obtain ⟨before, after, hentries, -⟩ := List.lookup_eq_some_iff.1 hwaits
  let env := Application.surroundings.surface a b log
  let turn := Batch.upTo env .pre before record w
  have hresult : batch.results.lookup name = (some Builtin.newCorrelationId.toFunction).bind fun f =>
      (env.call f turn.record turn.state).1.toOption := Batch.lookup_results hqueue hentries record w
  obtain ⟨hdrawn, hserial⟩ := call_newCorrelationId a b log turn.record turn.state
  let next := Batch.step env .pre turn (name, some Builtin.newCorrelationId.toFunction)
  have hnext : next.state.serial = turn.state.serial + 1 := by
    rw [← hserial]
    unfold next Batch.step
    dsimp only
    split <;> rfl
  -- What is drawn after this turn only adds to the ids.
  have hafter : Onward next.state (after.foldl (Batch.step env .pre) next).state :=
    (keeps_builtins hfs next.state).batch .pre
      (fun n f hf => hours n f (hentries ▸ List.mem_append_right _ (List.mem_cons_of_mem _ hf))) (refl_of Onward _)
  have hbatch : batch = after.foldl (Batch.step env .pre) next := by
    unfold batch next turn Batch.run Batch.upTo
    rw [hentries, List.foldl_append, List.foldl_cons]
  refine ⟨turn.state.serial + 1, ?_, ?_⟩
  · rw [hbatch, ← hnext]
    exact hafter.serial
  · rw [hresult, Option.bind_some, hdrawn]
    rfl

end Pass

/-! ## The fields of an arrival -/

namespace Builtin

variable {componentName layer : Value} {a b : Adapter} {log : Option Nat} {record : Record} {w : World}

theorem functionsOf_preFields :
    ∀ f ∈ functionsOf (preFields componentName layer), ∃ g, f = Builtin.toFunction g := by
  have hfunctions : functionsOf (preFields componentName layer) =
      [newCorrelationId, receivedAt, requestPath, httpProtocol, clientHost, clientPort].map toFunction := rfl
  rw [hfunctions]
  intro f hf
  obtain ⟨g, -, rfl⟩ := List.mem_map.1 hf
  exact ⟨g, rfl⟩

theorem names_preFields (componentName layer : Value) : (preFields componentName layer).map (·.name) =
    ["type", "component_type", "component_name", "layer", "direction", "correlation_id", "request_id",
      "request_received_at", "method", "request", "protocol", "remote_ip", "remote_host", "remote_port",
      "request_size_b", "referer", "x_forwarded_for"] := rfl

theorem nodup_names_preFields : ((preFields componentName layer).map (·.name)).Nodup := by
  rw [names_preFields]
  decide

/-- The field of the correlation id. -/
def correlationField : Descriptor :=
  { name := "correlation_id", source := .header "x-correlation-id", mandatory := true,
    fallback := some newCorrelationId.toFunction }

/-- The correlation id is a field of its own. -/
theorem exists_split_preFields (componentName layer : Value) :
    ∃ before after, preFields componentName layer = before ++ correlationField :: after :=
  ⟨(preFields componentName layer).take 5, (preFields componentName layer).drop 6, rfl⟩

theorem not_isAlias_correlationField : ¬IsAlias (preFields componentName layer) "correlation_id" := by
  rw [isAlias_iff]
  show "correlation_id" ∉ ["remote_host"]
  decide

/-- **The correlation id of an arrival** is what its header gives at its turn, or an id that has been drawn if that is
missing. -/
theorem resolvePass_correlationId_of_turn (hrecord : record.Clean) {before after : List Descriptor}
    (hfields : preFields componentName layer = before ++ correlationField :: after) :
    let env := Application.surroundings.surface a b log
    let given := Primary.onto (Sweep.turn env .pre (Sweep.run env .pre before record w) correlationField)
      (record.get? "correlation_id")
    let result := resolvePass env .pre (preFields componentName layer) record w
    (∀ v, given = some v → result.record.get? "correlation_id" = some v) ∧
    (given = none → ∃ n ≤ result.state.serial, result.record.get? "correlation_id" = some (.text (World.idText n))) := by
  intro env given result
  have hspares : env.Spares (functionsOf (preFields componentName layer)) := spares_builtins functionsOf_preFields
  have hnames : ((before ++ correlationField :: after).map (·.name)).Nodup := hfields ▸ nodup_names_preFields
  have hsplit : env.Spares (functionsOf (before ++ correlationField :: after)) := hfields ▸ hspares
  refine ⟨fun v hv => ?_, fun hmissing => ?_⟩
  · have hend := resolvePass_get?_of_split .pre hnames hrecord hsplit w id (.inl nofun) fun h =>
      nomatch hv.symm.trans h.2.1
    rw [← hfields] at hend
    exact hend.trans (Option.or_none.trans hv)
  · let sw := Sweep.run env .pre (preFields componentName layer) record w
    have hsound := Sweep.run_sound .pre (fun _ hd => hd) hspares hrecord w
    have hqueue : sw.queue.get? "correlation_id" = some (some newCorrelationId.toFunction) := by
      have h := Sweep.run_queue_of_waits .pre hnames hrecord hsplit w nofun ⟨rfl, hmissing, rfl⟩
      rwa [← hfields] at h
    obtain ⟨n, hn, hresult⟩ := lookup_results_drawn functionsOf_preFields hsound.queue hsound.ours hqueue sw.record
      sw.state
    refine ⟨n, hn, ?_⟩
    have hend := get?_unlinked .pre hspares record w "correlation_id"
    rw [← resolvePass_get?_of_not_alias not_isAlias_correlationField] at hend
    refine hend.trans ?_
    rw [hresult]
    rfl

variable (hreader : Adapter.detectReader (w.hostOf a.target) = .ok a.reader)

include hreader

/-- At the turn of the correlation id the request's header is what it was. -/
theorem turn_correlationField {before after : List Descriptor}
    (hfields : preFields componentName layer = before ++ correlationField :: after) :
    let env := Application.surroundings.surface a b log
    Primary.onto (Sweep.turn env .pre (Sweep.run env .pre before record w) correlationField)
      (record.get? "correlation_id") = (w.hostOf a.target).header? "x-correlation-id" := by
  intro env
  have hkeeps : env.Keeps (Onward w) (functionsOf (preFields componentName layer)) :=
    keeps_builtins functionsOf_preFields w
  have hbefore : ∀ f ∈ functionsOf before, f ∈ functionsOf (preFields componentName layer) := by
    rw [hfields]
    exact functionsOf_mono fun _ => List.mem_append_left _
  have honward := hkeeps.sweep hbefore .pre record (refl_of Onward w)
  have hheader : (env.header .pre "x-correlation-id" (Sweep.run env .pre before record w).state).1 =
      (w.hostOf a.target).header "x-correlation-id" :=
    ((honward.headers a.target).trans (looksAlike_looked a _)).readHeader hreader _
  have hturn : Sweep.turn env .pre (Sweep.run env .pre before record w) correlationField =
      ((w.hostOf a.target).header "x-correlation-id").map Primary.value := congrArg (·.map Primary.value) hheader
  rw [hturn, Host.header?]
  cases (w.hostOf a.target).header "x-correlation-id" <;> rfl

/-- The correlation id of an arrival from a host that offers what it did when its adapter was made: the request's
header, or an id that has been drawn. -/
theorem resolvePass_correlationId (componentName layer : Value) (b : Adapter) (log : Option Nat)
    (hrecord : record.Clean) :
    let header := (w.hostOf a.target).header? "x-correlation-id"
    let result := resolvePass (Application.surroundings.surface a b log) .pre (preFields componentName layer) record w
    (∀ v, header = some v → result.record.get? "correlation_id" = some v) ∧
    (header = none →
      ∃ n ≤ result.state.serial, result.record.get? "correlation_id" = some (.text (World.idText n))) := by
  obtain ⟨before, after, hfields⟩ := exists_split_preFields componentName layer
  let env := Application.surroundings.surface a b log
  have hturn : Primary.onto (Sweep.turn env .pre (Sweep.run env .pre before record w) correlationField)
      (record.get? "correlation_id") = (w.hostOf a.target).header? "x-correlation-id" :=
    turn_correlationField hreader hfields
  dsimp only
  rw [← hturn]
  exact resolvePass_correlationId_of_turn hrecord hfields

end Builtin

end ActivityLog
