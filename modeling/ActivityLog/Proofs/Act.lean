import ActivityLog.Core
import Mathlib.Order.Defs.Unbundled

/-!
# Steps, one after the other

`Act.perform` is what a step does at a state: a result or a failure, and the state that it leaves behind in either case.

- `perform_bind` and its companions `perform_bind_ok` and `perform_bind_error` take a sequence of steps apart, and
  `of_perform_bind_ok` and `of_perform_bind_eq` one that is known to succeed.
- `Act.Keeps R`: wherever a step begins, it ends in a state that `R` relates to the beginning. For a preorder this is
  closed under everything that steps are made of.
-/

namespace ActivityLog

/-- A row that is there can be replaced. -/
theorem Table.get?_set_self {α : Type} {t : Table α} {id : Nat} {a : α} (h : t.get? id = some a) (b : α) :
    (t.set id b).get? id = some b := by
  rw [Table.get?_set, if_pos rfl, h]
  rfl

/-- A row that is replaced by itself. -/
theorem Table.set_self {α : Type} {t : Table α} {id : Nat} {a : α} (h : t.get? id = some a) : t.set id a = t := by
  obtain ⟨hid, rfl⟩ := List.getElem?_eq_some_iff.1 h
  unfold Table.set
  rw [List.set_getElem_self]

/-- A row that is not there cannot be replaced. -/
theorem Table.set_of_get?_eq_none {α : Type} {t : Table α} {id : Nat} (h : t.get? id = none) (a : α) :
    t.set id a = t := by
  unfold Table.set
  rw [List.set_eq_of_length_le (List.getElem?_eq_none_iff.1 h)]

/-- The next row is not there yet. -/
theorem Table.get?_next {α : Type} (t : Table α) : t.get? t.next = none := by simp [Table.get?, Table.next]

/-- A row that is there stays when another one is added. -/
theorem Table.get?_add_of_eq_some {α : Type} {t : Table α} {id : Nat} {a : α} (h : t.get? id = some a) (b : α) :
    (t.add b).get? id = some a := by
  have hne : id ≠ t.next := by
    rintro rfl
    rw [Table.get?_next] at h
    cases h
  rw [Table.get?_add, if_neg hne, h]

theorem Table.get?_modify {α : Type} (t : Table α) (id n : Nat) (f : α → α) :
    (t.modify id f).get? n = if id = n then (t.get? n).map f else t.get? n := by
  unfold Table.modify Table.get?
  rw [List.getElem?_modify]
  split
  · rfl
  · rw [id_map']

namespace Act

variable {α β : Type} {R : World → World → Prop} {w w' : World} {f : Failure}

/-! ## Performing a step -/

/-- What a step does at a state: its result or failure, and the state that it leaves behind. -/
def perform (x : Act α) (w : World) : Except Failure α × World := x.run.run w

@[simp] theorem perform_pure (a : α) (w : World) : (pure a : Act α).perform w = (.ok a, w) := rfl

@[simp] theorem perform_throw (f : Failure) (w : World) : (throw f : Act α).perform w = (.error f, w) := rfl

@[simp] theorem perform_get (w : World) : (get : Act World).perform w = (.ok w, w) := rfl

@[simp] theorem perform_set (v w : World) : (set v : Act PUnit).perform w = (.ok (), v) := rfl

@[simp] theorem perform_diagnose (ds : List Diagnostic) (w : World) :
    (diagnose ds).perform w = (.ok (), { w with diagnostics := w.diagnostics ++ ds }) := rfl

@[simp] theorem perform_setLifecycle (id : Nat) (l : Lifecycle) (w : World) :
    (setLifecycle id l).perform w = (.ok (), { w with lifecycles := w.lifecycles.set id l }) := rfl

/-- A step that cannot fail. -/
@[simp] theorem perform_lift (x : StateM World α) (w : World) :
    (liftM x : Act α).perform w = (.ok (x.run w).1, (x.run w).2) := rfl

theorem perform_bind (x : Act α) (g : α → Act β) (w : World) :
    (x >>= g).perform w = match x.perform w with
      | (.ok a, w) => (g a).perform w
      | (.error f, w) => (.error f, w) := by
  unfold perform
  rw [ExceptT.run_bind, StateT.run_bind]
  rcases x.run.run w with ⟨_ | _, _⟩ <;> rfl

theorem perform_bind_ok {x : Act α} {a : α} (h : x.perform w = (.ok a, w')) (g : α → Act β) :
    (x >>= g).perform w = (g a).perform w' := by rw [perform_bind, h]

theorem perform_bind_error {x : Act α} (h : x.perform w = (.error f, w')) (g : α → Act β) :
    (x >>= g).perform w = (.error f, w') := by rw [perform_bind, h]

/-- A sequence succeeds if both of its steps do. -/
theorem of_perform_bind_ok {x : Act α} {g : α → Act β} {b : β} (h : ((x >>= g).perform w).1 = .ok b) :
    ∃ a, (x.perform w).1 = .ok a ∧ ((g a).perform (x.perform w).2).1 = .ok b ∧
      ((x >>= g).perform w).2 = ((g a).perform (x.perform w).2).2 := by
  rcases hx : x.perform w with ⟨f | a, w'⟩
  · rw [perform_bind_error hx] at h
    cases h
  · rw [perform_bind_ok hx] at h ⊢
    exact ⟨a, rfl, h, rfl⟩

/-- As `of_perform_bind_ok`, with the states that are left behind. -/
theorem of_perform_bind_eq {x : Act α} {g : α → Act β} {b : β} (h : (x >>= g).perform w = (.ok b, w')) :
    ∃ a v, x.perform w = (.ok a, v) ∧ (g a).perform v = (.ok b, w') := by
  obtain ⟨a, ha, hb, hleft⟩ := of_perform_bind_ok (congrArg Prod.fst h)
  rw [h] at hleft
  exact ⟨a, _, Prod.ext ha rfl, Prod.ext hb hleft.symm⟩

/-- A sequence succeeds exactly if both of its steps do. -/
theorem perform_bind_eq_iff {x : Act α} {g : α → Act β} {b : β} : (x >>= g).perform w = (.ok b, w') ↔
    ∃ a v, x.perform w = (.ok a, v) ∧ (g a).perform v = (.ok b, w') := by
  refine ⟨of_perform_bind_eq, ?_⟩
  rintro ⟨a, v, ha, hb⟩
  rw [perform_bind_ok ha, hb]

/-- A sequence fails exactly if one of its steps does. -/
theorem perform_bind_error_iff {x : Act α} {g : α → Act β} : (x >>= g).perform w = (.error f, w') ↔
    x.perform w = (.error f, w') ∨ ∃ a v, x.perform w = (.ok a, v) ∧ (g a).perform v = (.error f, w') := by
  rcases hx : x.perform w with ⟨e | a, v⟩
  · rw [perform_bind_error hx]
    simp
  · rw [perform_bind_ok hx]
    refine ⟨fun h => .inr ⟨a, v, rfl, h⟩, ?_⟩
    rintro (⟨⟨⟩⟩ | ⟨a, v, ⟨⟩, h⟩)
    exact h

theorem perform_of_toOption {x : Act α} {a : α} (h : (x.perform w).1.toOption = some a) :
    x.perform w = (.ok a, (x.perform w).2) := by
  rcases hx : x.perform w with ⟨f | b, v⟩ <;> rw [hx] at h
  · cases h
  · rw [Option.some.inj h]

/-! ## Steps whose results do not matter -/

theorem discard_eq (x : Act α) : discard x = x >>= fun _ => pure () := by
  rw [Functor.discard, map_const]
  exact map_eq_pure_bind _ x

theorem perform_discard (x : Act α) (w : World) :
    (discard x).perform w = ((x.perform w).1.map fun _ => (), (x.perform w).2) := by
  rw [discard_eq, perform_bind]
  rcases x.perform w with ⟨_ | _, _⟩ <;> rfl

theorem perform_discard_error_iff {x : Act α} :
    (discard x).perform w = (.error f, w') ↔ x.perform w = (.error f, w') := by
  rw [perform_discard]
  rcases x.perform w with ⟨_ | _, _⟩ <;> simp [Except.map]

/-- Steps one after the other fail with the first of them that does. -/
theorem perform_forM_error_iff {ι : Type} {g : ι → Act PUnit} {is : List ι} : (forM is g).perform w = (.error f, w') ↔
    ∃ earlier i later v, is = earlier ++ i :: later ∧ (forM earlier g).perform w = (.ok (), v) ∧
      (g i).perform v = (.error f, w') := by
  induction is generalizing w with
  | nil => simp
  | cons i is ih =>
    rw [List.forM_cons, perform_bind_error_iff]
    constructor
    · rintro (hi | ⟨u, v, hi, hrest⟩)
      · exact ⟨[], i, is, w, rfl, rfl, hi⟩
      · obtain ⟨earlier, j, later, v', rfl, hearlier, hj⟩ := ih.1 hrest
        exact ⟨i :: earlier, j, later, v', rfl, by rw [List.forM_cons, perform_bind_ok hi, hearlier], hj⟩
    · rintro ⟨_ | ⟨j, earlier⟩, j', later, v, hsplit, hearlier, hj⟩ <;> obtain ⟨rfl, rfl⟩ := List.cons.inj hsplit
      · cases hearlier
        exact .inl hj
      · rw [List.forM_cons] at hearlier
        obtain ⟨u, v', hi, hearlier⟩ := of_perform_bind_eq hearlier
        exact .inr ⟨u, v', hi, ih.2 ⟨earlier, j', later, v, rfl, hearlier, hj⟩⟩

/-! ## Failures that are caught -/

theorem perform_tryCatch (x : Act α) (g : Failure → Act α) (w : World) :
    (tryCatch x g).perform w = match x.perform w with
      | (.ok a, w) => (.ok a, w)
      | (.error f, w) => (g f).perform w := by
  unfold perform
  rw [ExceptT.run_tryCatch, StateT.run_bind]
  rcases x.run.run w with ⟨_ | _, _⟩ <;> rfl

theorem perform_tryCatch_ok {x : Act α} {a : α} (h : x.perform w = (.ok a, w')) (g : Failure → Act α) :
    (tryCatch x g).perform w = (.ok a, w') := by rw [perform_tryCatch, h]

theorem perform_tryCatch_error {x : Act α} (h : x.perform w = (.error f, w')) (g : Failure → Act α) :
    (tryCatch x g).perform w = (g f).perform w' := by rw [perform_tryCatch, h]

/-- A step whose failures are only told as other ones succeeds as before. -/
theorem perform_recast_ok_iff {x : Act α} {g : Failure → Failure} {a : α} :
    (tryCatch x fun f => throw (g f)).perform w = (.ok a, w') ↔ x.perform w = (.ok a, w') := by
  rw [perform_tryCatch]
  rcases x.perform w with ⟨_ | _, _⟩
  · exact iff_of_false nofun nofun
  · rfl

/-- It fails as before, but for the telling. -/
theorem perform_recast_error_iff {x : Act α} {g : Failure → Failure} :
    (tryCatch x fun f => throw (g f)).perform w = (.error f, w') ↔ ∃ e, x.perform w = (.error e, w') ∧ g e = f := by
  rw [perform_tryCatch]
  rcases x.perform w with ⟨e | a, v⟩
  · constructor
    · rintro ⟨⟩
      exact ⟨e, rfl, rfl⟩
    · rintro ⟨_, ⟨⟩, rfl⟩
      rfl
  · exact iff_of_false nofun (fun ⟨_, h, _⟩ => nomatch h)

@[simp] theorem perform_outcome (x : Act α) (w : World) :
    (outcome x).perform w = (.ok (x.perform w).1, (x.perform w).2) := rfl

/-- The state after a step whose failure is only noted. -/
def after (x : Act α) (note : Failure → Diagnostic) (w : World) : World :=
  match x.perform w with
  | (.ok _, w) => w
  | (.error f, w) => { w with diagnostics := w.diagnostics ++ [note f] }

theorem after_eq (x : Act α) (note : Failure → Diagnostic) (w : World) :
    ∃ ds, x.after note w = { (x.perform w).2 with diagnostics := ds } := by
  unfold after
  rcases x.perform w with ⟨f | a, w'⟩
  · exact ⟨_, rfl⟩
  · exact ⟨w'.diagnostics, rfl⟩

@[simp] theorem perform_ofExcept (r : Except Failure α) (w : World) : (ofExcept r).perform w = (r, w) := by
  cases r <;> rfl

@[simp] theorem perform_row_some (what : String) (a : α) (w : World) : (row what (some a)).perform w = (.ok a, w) := rfl

@[simp] theorem perform_row_none (what : String) (w : World) :
    (row what (none : Option α)).perform w = (.error (.fault (.other "LookupError") ("unknown " ++ what)), w) := rfl

theorem perform_host {h : Host} {id : Nat} (hw : w.hosts.get? id = some h) : (host id).perform w = (.ok h, w) := by
  simp [host, perform_bind, hw]

/-- A host that is missing is missed by whoever asks for it. -/
theorem perform_host_none {id : Nat} (hw : w.hosts.get? id = none) : ∃ f, (host id).perform w = (.error f, w) := by
  refine ⟨.fault (.other "LookupError") ("unknown " ++ "host"), ?_⟩
  simp [host, perform_bind, hw]

theorem perform_look {h : Host} {id : Nat} (hw : w.hosts.get? id = some h) (name : String) :
    (look id name).perform w = (.ok (h.seen name), { w with hosts := w.hosts.set id (h.seen name) }) := by
  unfold look
  rw [perform_bind_ok (perform_host hw)]
  rfl

theorem perform_lifecycle {l : Lifecycle} {id : Nat} (hw : w.lifecycles.get? id = some l) :
    (lifecycle id).perform w = (.ok l, w) := by simp [lifecycle, perform_bind, hw]

theorem perform_pipeline {p : Pipeline} {id : Nat} (hw : w.pipelines.get? id = some p) :
    (pipeline id).perform w = (.ok p, w) := by simp [pipeline, perform_bind, hw]

theorem perform_lifecycle_none {id : Nat} (hw : w.lifecycles.get? id = none) :
    ∃ f, (lifecycle id).perform w = (.error f, w) := by
  refine ⟨.fault (.other "LookupError") ("unknown " ++ "lifecycle"), ?_⟩
  simp [lifecycle, perform_bind, hw]

theorem perform_pipeline_none {id : Nat} (hw : w.pipelines.get? id = none) :
    ∃ f, (pipeline id).perform w = (.error f, w) := by
  refine ⟨.fault (.other "LookupError") ("unknown " ++ "pipeline"), ?_⟩
  simp [pipeline, perform_bind, hw]

theorem perform_core {d : CoreData} {id : Nat} (hd : w.cores.get? id = some d) : (core id).perform w = (.ok d, w) := by
  simp [core, perform_bind, hd]

theorem perform_core_none {id : Nat} (hd : w.cores.get? id = none) : ∃ f, (core id).perform w = (.error f, w) := by
  refine ⟨.fault (.other "LookupError") ("unknown " ++ "core"), ?_⟩
  simp [core, perform_bind, hd]

/-- What follows a look at a log, which may be missing. -/
theorem lifecycle_bind_cases {P : World → Prop} {id : Nat} {g : Lifecycle → Act β} (hw : P w)
    (hg : ∀ l, w.lifecycles.get? id = some l → P ((g l).perform w).2) : P ((lifecycle id >>= g).perform w).2 := by
  cases hl : w.lifecycles.get? id with
  | none =>
    obtain ⟨f, hf⟩ := perform_lifecycle_none hl
    rw [perform_bind_error hf]
    exact hw
  | some l =>
    rw [perform_bind_ok (perform_lifecycle hl)]
    exact hg l hl

/-- What follows a look at a pipeline, which may be missing. -/
theorem pipeline_bind_cases {P : World → Prop} {id : Nat} {g : Pipeline → Act β} (hw : P w)
    (hg : ∀ p, w.pipelines.get? id = some p → P ((g p).perform w).2) : P ((pipeline id >>= g).perform w).2 := by
  cases hp : w.pipelines.get? id with
  | none =>
    obtain ⟨f, hf⟩ := perform_pipeline_none hp
    rw [perform_bind_error hf]
    exact hw
  | some p =>
    rw [perform_bind_ok (perform_pipeline hp)]
    exact hg p hp

/-- The adapter of a host is for that host. -/
theorem adapter_target {n : Nat} {a : Adapter} (h : ((adapter n).perform w).1 = .ok a) : a.target = n := by
  unfold adapter at h
  obtain ⟨host, -, h, -⟩ := of_perform_bind_ok h
  have hmake : ∃ host, Adapter.make n host = .ok a := by
    dsimp only at h
    split at h
    all_goals
      obtain ⟨host, -, h, -⟩ := of_perform_bind_ok h
      rw [perform_ofExcept] at h
      exact ⟨host, h⟩
  obtain ⟨host, hmake⟩ := hmake
  unfold Adapter.make at hmake
  cases hr : Adapter.detectReader host <;> rw [hr] at hmake <;> cases hmake
  rfl

/-! ## What a step keeps -/

/-- Wherever the step begins, the state it leaves behind is related to the one it began in. -/
def Keeps (R : World → World → Prop) (x : Act α) : Prop := ∀ w, R w (x.perform w).2

theorem Keeps.modify {g : World → World} (h : ∀ w, R w (g w)) : Keeps R (modify g : Act PUnit) := h

theorem Keeps.mono {S : World → World → Prop} {x : Act α} (h : Keeps R x) (hr : ∀ w w', R w w' → S w w') :
    Keeps S x := fun w => hr _ _ (h w)

theorem Keeps.ite {c : Prop} [Decidable c] {x y : Act α} (hx : Keeps R x) (hy : Keeps R y) :
    Keeps R (if c then x else y) := by
  split
  · exact hx
  · exact hy

/-- A step that looks at the state where it begins. -/
theorem Keeps.get_bind {g : World → Act β} (h : ∀ w, R w ((g w).perform w).2) :
    Keeps R (MonadState.get >>= g) := h

section Preorder

variable [IsPreorder World R]

theorem Keeps.pure (a : α) : Keeps R (Pure.pure a : Act α) := fun w => refl_of R w

theorem Keeps.throw (f : Failure) : Keeps R (throw f : Act α) := fun w => refl_of R w

theorem Keeps.throw_bind (f : Failure) (g : α → Act β) : Keeps R (MonadExcept.throw f >>= g) := fun w => refl_of R w

/-- A step that comes after a check. -/
theorem Keeps.check {c : Prop} [Decidable c] {x : Act β} (h : Keeps R x) (f : Failure) (g : α → Act β) :
    Keeps R (if c then MonadExcept.throw f >>= g else x) := Keeps.ite (Keeps.throw_bind f g) h

theorem Keeps.get : Keeps R (MonadState.get : Act World) := fun w => refl_of R w

theorem Keeps.bind {x : Act α} {g : α → Act β} (hx : Keeps R x) (hg : ∀ a, Keeps R (g a)) : Keeps R (x >>= g) := by
  intro w
  have h := hx w
  rcases hr : x.perform w with ⟨_ | a, w'⟩ <;> rw [hr] at h
  · rw [perform_bind_error hr]
    exact h
  · rw [perform_bind_ok hr]
    exact trans_of R h (hg a w')

/-- As `Keeps.bind`, when what follows is only known to keep the relation where the first step ends. -/
theorem Keeps.bind_of {x : Act α} {g : α → Act β} (w : World) (hx : R w (x.perform w).2)
    (hg : ∀ a, (x.perform w).1 = .ok a → R (x.perform w).2 ((g a).perform (x.perform w).2).2) :
    R w ((x >>= g).perform w).2 := by
  rcases hr : x.perform w with ⟨_ | a, w'⟩ <;> rw [hr] at hx hg
  · rw [perform_bind_error hr]
    exact hx
  · rw [perform_bind_ok hr]
    exact trans_of R hx (hg a rfl)

/-- As `Keeps.bind`, when what follows matters for results of the first step only. -/
theorem Keeps.bind_result {x : Act α} {g : α → Act β} (hx : Keeps R x)
    (hg : ∀ a, (∃ w, (x.perform w).1 = .ok a) → Keeps R (g a)) : Keeps R (x >>= g) :=
  fun w => Keeps.bind_of w (hx w) fun a ha => hg a ⟨w, ha⟩ _

theorem Keeps.ofExcept (r : Except Failure α) : Keeps R (Act.ofExcept r) := by
  intro w
  rw [perform_ofExcept]
  exact refl_of R w

/-- A step whose failures are caught. -/
theorem Keeps.tryCatch {x : Act α} {g : Failure → Act α} (hx : Keeps R x) (hg : ∀ f, Keeps R (g f)) :
    Keeps R (MonadExcept.tryCatch x g) := by
  intro w
  have h := hx w
  rcases hr : x.perform w with ⟨f | a, w'⟩ <;> rw [hr] at h
  · rw [perform_tryCatch_error hr]
    exact trans_of R h (hg f w')
  · rw [perform_tryCatch_ok hr]
    exact h

omit [IsPreorder World R] in
/-- A step whose failure is looked at. -/
theorem Keeps.outcome {x : Act α} (h : Keeps R x) : Keeps R (Act.outcome x) := h

/-- The same step for one thing after the other. -/
theorem Keeps.forM {g : α → Act PUnit} (h : ∀ a, Keeps R (g a)) (as : List α) : Keeps R (as.forM g) := by
  induction as with
  | nil => exact Keeps.pure _
  | cons a as ih => exact Keeps.bind (h a) fun _ => ih

/-- The results of the same step for one thing after the other. -/
theorem Keeps.mapM {g : α → Act β} (h : ∀ a, Keeps R (g a)) (as : List α) : Keeps R (as.mapM g) := by
  induction as with
  | nil => exact Keeps.pure _
  | cons a as ih =>
    rw [List.mapM_cons]
    exact Keeps.bind (h a) fun _ => Keeps.bind ih fun _ => Keeps.pure _

theorem Keeps.row (what : String) (o : Option α) : Keeps R (Act.row what o) := by
  cases o with
  | none => exact Keeps.throw _
  | some a => exact Keeps.pure a

theorem Keeps.host (id : Nat) : Keeps R (Act.host id) := Keeps.bind Keeps.get fun _ => Keeps.row _ _

theorem Keeps.lifecycle (id : Nat) : Keeps R (Act.lifecycle id) := Keeps.bind Keeps.get fun _ => Keeps.row _ _

theorem Keeps.pipeline (id : Nat) : Keeps R (Act.pipeline id) := Keeps.bind Keeps.get fun _ => Keeps.row _ _

/-- What follows a look at a core, which may be missing. -/
theorem Keeps.core_bind {id : Nat} {g : CoreData → Act β}
    (h : ∀ d w, w.cores.get? id = some d → R w ((g d).perform w).2) : Keeps R (Act.core id >>= g) := by
  intro w
  cases hd : w.cores.get? id with
  | none =>
    obtain ⟨f, hf⟩ := perform_core_none hd
    rw [perform_bind_error hf]
    exact refl_of R w
  | some d =>
    rw [perform_bind_ok (perform_core hd)]
    exact h d w hd

/-- A step whose result is of no matter. -/
theorem Keeps.discard {x : Act α} (h : Keeps R x) : Keeps R (Functor.discard x) := Keeps.bind h fun _ => Keeps.pure _

/-! ## Steps on hosts -/

section Hosts

variable {id : Nat} (hosts : ∀ w h, R w { w with hosts := w.hosts.set id h })
  (notes : ∀ w ds, R w { w with diagnostics := ds })
include hosts

omit [IsPreorder World R] in
theorem Keeps.setHost (h : Host) : Keeps R (Act.setHost id h) := fun w => hosts w h

theorem Keeps.look (name : String) : Keeps R (Act.look id name) :=
  Keeps.bind (Keeps.host id) fun _ => Keeps.bind (Keeps.setHost hosts _) fun _ => Keeps.pure _

theorem Keeps.adapter : Keeps R (Act.adapter id) := by
  refine Keeps.bind (Keeps.host id) fun h => ?_
  dsimp only
  split
  · exact Keeps.bind (Keeps.look hosts _) fun _ => Keeps.ofExcept _
  · exact Keeps.bind (Keeps.host id) fun _ => Keeps.ofExcept _

theorem Keeps.readStored (name : String) : Keeps R (Act.readStored id name) :=
  Keeps.bind (Keeps.look hosts _) fun _ => Keeps.ofExcept _

theorem Keeps.readHeader {a : Adapter} (ha : a.target = id) (name : String) : Keeps R (Act.readHeader a name) := by
  subst ha
  refine Keeps.bind (Keeps.host a.target) fun h => ?_
  exact Keeps.bind (Keeps.setHost hosts _) fun _ => Keeps.ofExcept _

include notes

theorem Keeps.writeField (name : String) (v : Value) : Keeps R (Act.writeField id name v) := by
  refine Keeps.bind (Keeps.look hosts _) fun h => ?_
  split
  · exact Keeps.setHost hosts _
  · exact fun w => notes w _
  · exact Keeps.throw _

theorem Keeps.onCompletion {a : Adapter} (ha : a.target = id) (l : Listener) : Keeps R (Act.onCompletion a l) := by
  subst ha
  unfold Act.onCompletion
  split
  · exact Keeps.bind (fun w => notes w _) fun _ => Keeps.pure _
  · exact Keeps.throw _
  · refine Keeps.bind (Keeps.host _) fun h => ?_
    have put (h : Host) : Keeps R (do Act.setHost a.target h; return true) :=
      Keeps.bind (Keeps.setHost hosts h) fun _ => Keeps.pure true
    dsimp only
    split
    · split
      · exact Keeps.throw_bind _ _
      · exact put _
    · exact put _
    · exact put _

end Hosts

end Preorder

end Act

end ActivityLog
