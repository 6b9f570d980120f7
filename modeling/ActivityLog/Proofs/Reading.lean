import ActivityLog.Descriptor.File
import ActivityLog.Proofs.Act

/-!
# Readings and the references in them

Reading a field configuration does nothing but follow the references in it, and following a reference does nothing but
look at parts of the running application. So what relates the looks of two scopes relates all that is read in them, if
it holds of the parts that readings are made of: steps (`Act.Relates`), and what they read or find wrong
(`Document.Relates`). A step that succeeds does the same when more can be looked at (`Act.Refines`), one that does not
fail keeps what its looks keep (`Act.Maintains`), and so does any step (`Document.Relates.keeps`).

A reading that gives something has no issues in any of its parts (`Document.Gives`, `gives_both`).

- `Reference.resolve_related`: references.
- `FieldConfig.ofValue_related`, `FieldConfig.load_related`: documents, given as values or in files.
-/

namespace ActivityLog

namespace Act

variable {α β : Type}

/-- A relation of steps that holds of what references are followed by. -/
structure Relates (T : ∀ {α : Type}, Act α → Act α → Prop) : Prop where
  pure : ∀ {α : Type} (a : α), T (Pure.pure a : Act α) (Pure.pure a)
  throw : ∀ {α : Type} (f : Failure), T (throw f : Act α) (throw f)
  bind : ∀ {α β : Type} {x y : Act α} {g h : α → Act β}, T x y → (∀ a, T (g a) (h a)) → T (x >>= g) (y >>= h)
  /-- Failures may be told as other ones. -/
  recast : ∀ {α : Type} {x y : Act α} (g : Failure → Failure), T x y →
    T (tryCatch x fun f => MonadExcept.throw (g f)) (tryCatch y fun f => MonadExcept.throw (g f))

/-- Wherever the first step succeeds the second does the same. -/
def Refines (x y : Act α) : Prop := ∀ w a w', x.perform w = (.ok a, w') → y.perform w = (.ok a, w')

/-- Where the step succeeds it keeps a property of the state. -/
def Maintains (P : World → Prop) (x : Act α) : Prop := ∀ w a w', P w → x.perform w = (.ok a, w') → P w'

theorem Refines.refl (x : Act α) : x.Refines x := fun _ _ _ h => h

/-- A step that fails never succeeds. -/
theorem Refines.throw (f : Failure) (x : Act α) : (MonadExcept.throw f : Act α).Refines x := fun _ _ _ h => by cases h

theorem Refines.bind {x y : Act α} {g h : α → Act β} (hx : x.Refines y) (hg : ∀ a, (g a).Refines (h a)) :
    (x >>= g).Refines (y >>= h) := by
  intro w b w' hb
  obtain ⟨a, v, ha, hb⟩ := of_perform_bind_eq hb
  rw [perform_bind_ok (hx w a v ha)]
  exact hg a v b w' hb

theorem Refines.relates : Relates fun x y => x.Refines y where
  pure _ := refl _
  throw _ := refl _
  bind := bind
  recast _ hx w a w' h := perform_recast_ok_iff.2 (hx w a w' (perform_recast_ok_iff.1 h))

theorem Maintains.bind {P : World → Prop} {x : Act α} {g : α → Act β} (hx : x.Maintains P)
    (hg : ∀ a, (g a).Maintains P) : (x >>= g).Maintains P := by
  intro w b w' hp hb
  obtain ⟨a, v, ha, hb⟩ := of_perform_bind_eq hb
  exact hg a v b w' (hx w a v hp ha) hb

theorem Maintains.relates (P : World → Prop) : Relates fun x _ => x.Maintains P where
  pure a := by
    rintro w _ _ hp ⟨⟩
    exact hp
  throw f := fun _ _ _ _ h => by cases h
  bind := bind
  recast _ hx w a w' hp h := hx w a w' hp (perform_recast_ok_iff.1 h)

theorem Relates.keeps (R : World → World → Prop) [IsPreorder World R] : Relates fun x _ => Keeps R x where
  pure a := Keeps.pure a
  throw f := Keeps.throw f
  bind := Keeps.bind
  recast _ hx := Keeps.tryCatch hx fun _ => Keeps.throw _

end Act

/-! ## References -/

namespace Reference

variable {T : ∀ {α : Type}, Act α → Act α → Prop} (hT : Act.Relates T)
  {scope scope' : Scope Act} (hlook : ∀ part, T (scope.look part) (scope'.look part))
  (hcatalogue : scope.catalogue = scope'.catalogue)
include hT hlook

theorem settle_related (m : Member) : T (settle scope m) (settle scope' m) := by
  cases m with
  | live part forms => exact hT.bind (hlook part) fun type => hT.pure _
  | function f kind own => exact hT.pure _
  | data kind own => exact hT.pure _

include hcatalogue

theorem follow_related (reference : String) (names : List String) : ∀ (place : Option (Member × String)) (m : Member),
    T (follow scope reference place m names) (follow scope' reference place m names) := by
  induction names with
  | nil => exact fun _ m => hT.pure _
  | cons name rest ih =>
    intro place m
    unfold follow
    rw [hcatalogue]
    dsimp only
    split
    · exact hT.bind (hT.recast _ (settle_related hT hlook _)) fun _ => ih _ _
    · exact hT.throw _

theorem resolveText_related (reference : String) : T (resolveText scope reference) (resolveText scope' reference) := by
  unfold resolveText
  rw [hcatalogue]
  split
  · split
    · exact hT.throw _
    dsimp only
    split
    · exact hT.throw _
    split
    · exact hT.throw _
    · refine hT.bind (follow_related hT hlook hcatalogue _ _ _ _) fun found => ?_
      split
      · exact hT.pure _
      · exact hT.throw _
  · exact hT.throw _

/-- **What relates the looks relates the references that are followed.** -/
theorem resolve_related (v : Value) : T (resolve scope v) (resolve scope' v) := by
  unfold resolve
  split
  · exact hT.pure _
  · exact hT.pure _
  · exact hT.bind (resolveText_related hT hlook hcatalogue _) fun f => hT.pure _
  · exact hT.throw _

end Reference

/-! ## Readings that give something -/

namespace Document

open Act

/-- The reading gives a result; there are no issues. -/
def Gives {α : Type} (r : Act (Checked α)) (w : World) (a : α) (w' : World) : Prop := r.perform w = (.ok (.ok a), w')

section Gives

variable {α β γ : Type} {w w' : World} {a : α} {b : β} {c : γ} {r : Act (Checked α)} {s : Act (Checked β)}
  {outer : List Place} {entries : List (String × Value)} {name : String} {read : Value → Act (Checked α)}

theorem gives_pure {result : Checked α} : Gives (pure result) w a w' ↔ result = .ok a ∧ w' = w := by
  simp [Gives, eq_comm]

theorem gives_within : Gives (within outer r) w a w' ↔ Gives r w a w' := by
  unfold Gives within
  rw [perform_bind_eq_iff]
  constructor
  · rintro ⟨issues | a', v, ha, hr⟩ <;> cases hr
    exact ha
  · exact fun h => ⟨_, _, h, rfl⟩

theorem gives_mapResult {f : α → β} : Gives (mapResult f r) w b w' ↔ ∃ a, Gives r w a w' ∧ f a = b := by
  unfold Gives mapResult
  rw [perform_bind_eq_iff]
  constructor
  · rintro ⟨issues | a, v, ha, hr⟩ <;> cases hr
    exact ⟨a, ha, rfl⟩
  · rintro ⟨a, ha, rfl⟩
    exact ⟨_, _, ha, rfl⟩

/-- Two readings give something if both do, one after the other. -/
theorem gives_both {f : α → β → γ} :
    Gives (both f r s) w c w' ↔ ∃ a v b, Gives r w a v ∧ Gives s v b w' ∧ f a b = c := by
  unfold Gives both
  constructor
  · intro h
    obtain ⟨x, v, hx, h⟩ := of_perform_bind_eq h
    obtain ⟨y, u, hy, h⟩ := of_perform_bind_eq h
    rcases x with issues | a <;> rcases y with issues' | b <;> cases h
    exact ⟨a, v, b, hx, hy, rfl⟩
  · rintro ⟨a, v, b, ha, hb, rfl⟩
    rw [perform_bind_ok ha, perform_bind_ok hb]
    rfl

theorem gives_required : Gives (required entries name read) w a w' ↔
    ∃ v, entries.lookup name = some v ∧ Gives (read v) w a w' := by
  unfold required
  split
  · next v hv => simp [hv, gives_within]
  · next hv => simp [hv, gives_pure, issue]

theorem gives_optional {default : α} : Gives (optional entries name default read) w a w' ↔
    (entries.lookup name = none ∧ default = a ∧ w' = w) ∨
      ∃ v, entries.lookup name = some v ∧ Gives (read v) w a w' := by
  unfold optional
  split
  · next v hv => simp [hv, gives_within]
  · next hv => simp [hv, gives_pure]

theorem perform_orThrow {failure : List Issue → Failure} :
    (orThrow failure r).perform w = (.ok a, w') ↔ Gives r w a w' := by
  unfold Gives orThrow
  rw [perform_bind_eq_iff]
  constructor
  · rintro ⟨issues | a', v, ha, hr⟩ <;> cases hr
    exact ha
  · exact fun h => ⟨_, _, h, rfl⟩

theorem perform_orFail {model : String} : (orFail model r).perform w = (.ok a, w') ↔ Gives r w a w' := perform_orThrow

end Gives

section Function

variable {resolve : Resolver Act} {v : Value} {f : Failure} {w w' : World}

/-- What comes of a function or a reference to one: what it resolves to, or what is reported of its failure. -/
theorem perform_function (resolve : Resolver Act) (v : Value) (w : World) :
    (function resolve v).perform w = match (resolve v).perform w with
      | (.ok found, w') => (.ok (.ok found), w')
      | (.error f, w') => match reported? f with
        | some issues => (.ok (.error issues), w')
        | none => (.error f, w') := by
  unfold function
  rcases hr : (resolve v).perform w with ⟨f | found, w'⟩
  · rw [perform_tryCatch_error (perform_bind_error hr _)]
    dsimp only
    cases reported? f <;> rfl
  · rw [perform_tryCatch_ok (perform_bind_ok hr _)]

theorem gives_function {found : Option FieldFunction} :
    Gives (function resolve v) w found w' ↔ (resolve v).perform w = (.ok found, w') := by
  unfold Gives
  rw [perform_function]
  rcases (resolve v).perform w with ⟨f | found', w'⟩
  · refine iff_of_false (fun h => ?_) nofun
    dsimp only at h
    split at h <;> cases h
  · simp

/-- Only what is not reported of the value ends the reading. -/
theorem perform_function_error_iff : (function resolve v).perform w = (.error f, w') ↔
    (resolve v).perform w = (.error f, w') ∧ reported? f = none := by
  rw [perform_function]
  rcases (resolve v).perform w with ⟨e | found, u⟩
  · dsimp only
    cases he : reported? e with
    | some issues =>
      refine iff_of_false nofun ?_
      rintro ⟨⟨⟩, hf⟩
      cases he.symm.trans hf
    | none =>
      constructor
      · rintro ⟨⟩
        exact ⟨rfl, he⟩
      · rintro ⟨⟨⟩, -⟩
        rfl
  · exact iff_of_false nofun (fun h => nomatch h.1)

end Function

/-- A relation of steps and one of readings that hold of what documents are read by. -/
structure Relates (T : ∀ {α : Type}, Act α → Act α → Prop)
    (U : ∀ {α : Type}, Act (Checked α) → Act (Checked α) → Prop) : Prop where
  steps : Act.Relates T
  pure : ∀ {α : Type} (result : Checked α), U (Pure.pure result) (Pure.pure result)
  within : ∀ {α : Type} {r r' : Act (Checked α)} (outer : List Place), U r r' →
    U (Document.within outer r) (Document.within outer r')
  mapResult : ∀ {α β : Type} {r r' : Act (Checked α)} (f : α → β), U r r' →
    U (Document.mapResult f r) (Document.mapResult f r')
  both : ∀ {α β γ : Type} {r r' : Act (Checked α)} {s s' : Act (Checked β)} (f : α → β → γ), U r r' → U s s' →
    U (Document.both f r s) (Document.both f r' s')
  function : ∀ {resolve resolve' : Resolver Act} {v : Value}, T (resolve v) (resolve' v) →
    U (Document.function resolve v) (Document.function resolve' v)
  orThrow : ∀ {α : Type} {r r' : Act (Checked α)} (failure : List Issue → Failure), U r r' →
    T (Document.orThrow failure r) (Document.orThrow failure r')

namespace Relates

/-- What is given is given again. -/
theorem refines : Relates (fun x y => x.Refines y) fun r r' => ∀ w a w', Gives r w a w' → Gives r' w a w' where
  steps := Refines.relates
  pure _ _ _ _ h := h
  within _ h w a w' hr := gives_within.2 (h w a w' (gives_within.1 hr))
  mapResult _ h w b w' hr := by
    obtain ⟨a, ha, hb⟩ := gives_mapResult.1 hr
    exact gives_mapResult.2 ⟨a, h w a w' ha, hb⟩
  both _ h h' w c w' hr := by
    obtain ⟨a, v, b, ha, hb, hc⟩ := gives_both.1 hr
    exact gives_both.2 ⟨a, v, b, h w a v ha, h' v b w' hb, hc⟩
  function h w a w' hr := gives_function.2 (h w a w' (gives_function.1 hr))
  orThrow _ h w a w' hr := perform_orThrow.2 (h w a w' (perform_orThrow.1 hr))

/-- Where something is given a property of the state is kept. -/
theorem maintains (P : World → Prop) :
    Relates (fun x _ => x.Maintains P) fun r _ => ∀ w a w', P w → Gives r w a w' → P w' where
  steps := Maintains.relates P
  pure _ _ _ _ hp h := (gives_pure.1 h).2 ▸ hp
  within _ h w a w' hp hr := h w a w' hp (gives_within.1 hr)
  mapResult _ h w b w' hp hr := by
    obtain ⟨a, ha, -⟩ := gives_mapResult.1 hr
    exact h w a w' hp ha
  both _ h h' w c w' hp hr := by
    obtain ⟨a, v, b, ha, hb, -⟩ := gives_both.1 hr
    exact h' v b w' (h w a v hp ha) hb
  function h w a w' hp hr := h w a w' hp (gives_function.1 hr)
  orThrow _ h w a w' hp hr := h w a w' hp (perform_orThrow.1 hr)

/-- Whatever comes of a step, it keeps what it does to the state. -/
theorem keeps (R : World → World → Prop) [IsPreorder World R] :
    Relates (fun x _ => Keeps R x) fun r _ => Keeps R r where
  steps := Act.Relates.keeps R
  pure _ := Keeps.pure _
  within _ h := Keeps.bind h fun _ => Keeps.pure _
  mapResult _ h := Keeps.bind h fun _ => Keeps.pure _
  both _ h h' := Keeps.bind h fun _ => Keeps.bind h' fun _ => Keeps.pure _
  function h := by
    refine Keeps.tryCatch (Keeps.bind h fun _ => Keeps.pure _) fun f => ?_
    split
    · exact Keeps.pure _
    · exact Keeps.throw _
  orThrow _ h := by
    refine Keeps.bind h fun result => ?_
    cases result with
    | error issues => exact Keeps.throw _
    | ok a => exact Keeps.pure a

end Relates

end Document

/-! ## Documents -/

variable {T : ∀ {α : Type}, Act α → Act α → Prop}
  {U : ∀ {α : Type}, Act (Document.Checked α) → Act (Document.Checked α) → Prop} (hT : Document.Relates T U)
include hT

namespace Document

theorem sequence_related {α : Type} {ι : Type} {read read' : ι → Act (Checked α)} (h : ∀ i, U (read i) (read' i))
    (is : List ι) : U (sequence (is.map read)) (sequence (is.map read')) := by
  induction is with
  | nil => exact hT.pure _
  | cons i is ih => exact hT.both _ (h i) ih

section Entries

variable {α : Type} {read read' : Value → Act (Checked α)} (hread : ∀ v, U (read v) (read' v))
include hread

theorem required_related (entries : List (String × Value)) (name : String) :
    U (required entries name read) (required entries name read') := by
  unfold required
  split
  · exact hT.within _ (hread _)
  · exact hT.pure _

theorem optional_related (entries : List (String × Value)) (name : String) (default : α) :
    U (optional entries name default read) (optional entries name default read') := by
  unfold optional
  split
  · exact hT.within _ (hread _)
  · exact hT.pure _

end Entries

section Resolving

variable {resolve resolve' : Resolver Act} (hresolve : ∀ v, T (resolve v) (resolve' v))
include hresolve

theorem sourceFields_related (kind : SourceKind) (entries : List (String × Value)) :
    U (sourceFields resolve kind entries) (sourceFields resolve' kind entries) := by
  have hname {α : Type} (read : Value → Checked α) :
      U (required entries "name" (pure ∘ read)) (required entries "name" (pure ∘ read)) :=
    required_related hT (fun _ => hT.pure _) _ _
  have hfunction (name : String) : U (optional entries name none (function resolve))
      (optional entries name none (function resolve')) :=
    optional_related hT (fun v => hT.function (hresolve v)) _ _ _
  cases kind with
  | header | field | self => exact hT.mapResult _ (hname _)
  | fixed | special => exact hT.pure _
  | time => exact hT.both _ (hfunction _) (hfunction _)

theorem source_related (v : Value) : U (source resolve v) (source resolve' v) := by
  unfold source
  dsimp only
  split
  · exact hT.pure _
  · exact hT.pure _
  split
  · exact hT.pure _
  refine hT.within _ ?_
  split
  · exact sourceFields_related hT hresolve _ _
  · exact hT.pure _

theorem descriptor_related (v : Value) : U (descriptor resolve v) (descriptor resolve' v) := by
  unfold descriptor
  split
  · refine hT.both _ (hT.both _ ?_ ?_) (hT.both _ ?_ ?_)
    · exact required_related hT (fun _ => hT.pure _) _ _
    · exact required_related hT (source_related hT hresolve) _ _
    · exact optional_related hT (fun _ => hT.pure _) _ _ _
    · exact optional_related hT (fun v => hT.function (hresolve v)) _ _ _
  · exact hT.pure _

theorem descriptors_related (v : Value) : U (descriptors resolve v) (descriptors resolve' v) := by
  unfold descriptors
  split
  · exact sequence_related hT (fun ⟨item, _⟩ => hT.within _ (descriptor_related hT hresolve item)) _
  · exact hT.pure _

theorem config_related (v : Value) : U (config resolve v) (config resolve' v) := by
  unfold config
  split
  · exact hT.both _ (optional_related hT (descriptors_related hT hresolve) _ _ _)
      (optional_related hT (descriptors_related hT hresolve) _ _ _)
  · exact hT.pure _

end Resolving

end Document

namespace FieldConfig

section Related

variable {resolve resolve' : Document.Resolver Act} (hresolve : ∀ v, T (resolve v) (resolve' v))
include hresolve

/-- **What relates the references relates the documents that are read.** -/
theorem ofValue_related (v : Value) : T (ofValue resolve v) (ofValue resolve' v) :=
  hT.orThrow _ (Document.config_related hT hresolve v)

/-- The same of documents in files. -/
theorem load_related (files : Files) (path : String) : T (load resolve files path) (load resolve' files path) := by
  unfold load
  dsimp only
  split
  · exact hT.steps.throw _
  unfold ConfigFile.ofDocument
  split
  · exact hT.orThrow _ (Document.config_related hT hresolve _)
  · exact hT.steps.throw _

end Related

section Keeps

variable {R : World → World → Prop} [IsPreorder World R] {resolve : Document.Resolver Act}
  (hresolve : ∀ v, Act.Keeps R (resolve v))
omit hT
include hresolve

/-- **Reading documents keeps what references keep.** -/
theorem keeps_ofValue (v : Value) : Act.Keeps R (ofValue resolve v) :=
  @ofValue_related _ _ (Document.Relates.keeps R) resolve resolve hresolve v

/-- The same of documents in files. -/
theorem keeps_load (files : Files) (path : String) : Act.Keeps R (load resolve files path) :=
  @load_related _ _ (Document.Relates.keeps R) resolve resolve hresolve files path

end Keeps

omit hT in
/-- Where no reference moves something no file that can be read does. -/
theorem load_maintains {P : World → Prop} {resolve : Document.Resolver Act} (hresolve : ∀ v, (resolve v).Maintains P)
    (files : Files) (path : String) : (load resolve files path).Maintains P :=
  @load_related _ _ (Document.Relates.maintains P) resolve resolve hresolve files path

end FieldConfig

end ActivityLog
