import ActivityLog.Descriptor.File
import ActivityLog.Proofs.Descriptor.Describes

/-!
# What loading a file fails with

A file of fields that cannot be loaded is to be reported by an error of the field configuration. `ConfigFile.Escapes`
lists what is not, and `FieldConfig.load_escapes_iff` says that this is all: a path that no file can have, bytes that
are no UTF-8, JSON that is nested too deeply or holds too long a number, and a reference whose failure is neither such
an error nor reported as an issue of the document. The last can only be one to a module relative to none, or one that
looks at a part of the application that cannot be made.

All that a reading does is to follow the references of its document, one after the other, whatever else is wrong with it
(`Document.discard_config`).
-/

namespace ActivityLog

open Act

/-- The failure is an error of the field configuration. -/
def Failure.isFieldError : Failure → Bool
  | .configuration e => e.errorClass == .fieldConfiguration
  | _ => false

/-! ## The references of a document -/

namespace Document

/-- The references in the description of a source. -/
def sourceReferences : Value → List Value
  | .dict entries => match (entries.lookup "type").bind SourceKind.ofTag? with
    | some .time => (entries.lookup "pre").toList ++ (entries.lookup "post").toList
    | _ => []
  | _ => []

/-- The references in the description of a field. -/
def fieldReferences : Value → List Value
  | .dict entries => (entries.lookup "source").elim [] sourceReferences ++ (entries.lookup "fallback").toList
  | _ => []

/-- The references in the descriptions of fields. -/
def listReferences : Value → List Value
  | .list items => items.flatMap fieldReferences
  | _ => []

/-- The references in a document, in the order in which they are followed. -/
def references : Value → List Value
  | .dict entries => (entries.lookup "pre").elim [] listReferences ++ (entries.lookup "post").elim [] listReferences
  | _ => []

/-- Follows references, one after the other. One that fails so that it is reported keeps none of the others. -/
def followAll (resolve : Resolver Act) (vs : List Value) : Act PUnit := forM vs fun v => discard (function resolve v)

section Discard

variable {α β γ : Type} {resolve : Resolver Act} {r : Act (Checked α)} {s : Act (Checked β)} {us vs : List Value}
  {entries : List (String × Value)} {name : String} {read : Value → Act (Checked α)} {refs : Value → List Value}

theorem followAll_append (us vs : List Value) :
    followAll resolve (us ++ vs) = followAll resolve us >>= fun _ => followAll resolve vs := List.forM_append

theorem followAll_singleton (v : Value) : followAll resolve [v] = discard (function resolve v) := by
  simp [followAll, List.forM_cons, List.forM_nil]

theorem discard_within (outer : List Place) (r : Act (Checked α)) : discard (within outer r) = discard r := by
  simp [within, discard_eq]

theorem discard_mapResult (f : α → β) (r : Act (Checked α)) : discard (mapResult f r) = discard r := by
  simp [mapResult, discard_eq]

theorem discard_both {f : α → β → γ} (hr : discard r = followAll resolve us) (hs : discard s = followAll resolve vs) :
    discard (both f r s) = followAll resolve (us ++ vs) := by
  rw [followAll_append, ← hr, ← hs]
  simp [both, discard_eq]

theorem discard_required (h : ∀ v, discard (read v) = followAll resolve (refs v)) :
    discard (required entries name read) = followAll resolve ((entries.lookup name).elim [] refs) := by
  unfold required
  split
  · next v hv => rw [discard_within, h, hv, Option.elim_some]
  · next hv => rw [hv]; rfl

theorem discard_optional {default : α} (h : ∀ v, discard (read v) = followAll resolve (refs v)) :
    discard (optional entries name default read) = followAll resolve ((entries.lookup name).elim [] refs) := by
  unfold optional
  split
  · next v hv => rw [discard_within, h, hv, Option.elim_some]
  · next hv => rw [hv]; rfl

end Discard

variable {resolve : Resolver Act}

/-- An entry that may hold a reference. -/
theorem discard_optional_function (entries : List (String × Value)) (name : String) :
    discard (optional entries name none (function resolve)) = followAll resolve (entries.lookup name).toList := by
  rw [discard_optional fun v => (followAll_singleton v).symm]
  cases entries.lookup name <;> rfl

/-- Reading plain entries follows no references. -/
theorem discard_required_pure {α : Type} (entries : List (String × Value)) (name : String) (read : Value → Checked α) :
    discard (required entries name (pure ∘ read)) = followAll resolve [] := by
  unfold required
  split <;> rfl

theorem discard_optional_pure {α : Type} (entries : List (String × Value)) (name : String) (default : α)
    (read : Value → Checked α) : discard (optional entries name default (pure ∘ read)) = followAll resolve [] := by
  unfold optional
  split <;> rfl

theorem discard_sourceFields (kind : SourceKind) (entries : List (String × Value)) :
    discard (sourceFields resolve kind entries) = followAll resolve (match kind with
      | .time => (entries.lookup "pre").toList ++ (entries.lookup "post").toList
      | _ => []) := by
  cases kind with
  | header | field | self =>
    exact (discard_mapResult _ _).trans (discard_required_pure entries "name" text)
  | fixed | special => rfl
  | time => exact discard_both (discard_optional_function entries "pre") (discard_optional_function entries "post")

theorem discard_source (v : Value) : discard (source resolve v) = followAll resolve (sourceReferences v) := by
  unfold source sourceReferences
  cases v with
  | dict entries =>
    dsimp only
    cases entries.lookup "type" with
    | none => rfl
    | some tag =>
      dsimp only [Option.bind_some]
      cases SourceKind.ofTag? tag with
      | none => rfl
      | some kind =>
        refine (discard_within _ _).trans ((discard_sourceFields kind entries).trans ?_)
        cases kind <;> rfl
  | object kind attributes =>
    dsimp only
    cases attributes.lookup "type" with
    | none => rfl
    | some tag =>
      dsimp only
      cases SourceKind.ofTag? tag <;> rfl
  | function f => cases f <;> rfl
  | _ => rfl

theorem discard_descriptor (v : Value) : discard (descriptor resolve v) = followAll resolve (fieldReferences v) := by
  unfold descriptor
  split
  · next entries =>
    have hname : discard (required entries "name" (pure ∘ nonEmptyText) : Act _) = followAll resolve [] :=
      discard_required_pure entries "name" nonEmptyText
    have hmandatory : discard (optional entries "mandatory" false (pure ∘ truth) : Act _) = followAll resolve [] :=
      discard_optional_pure entries "mandatory" false truth
    exact discard_both (discard_both hname (discard_required discard_source))
      (discard_both hmandatory (discard_optional_function entries "fallback"))
  · next hdict =>
    cases v <;> first
      | rfl
      | exact absurd rfl (hdict _)

theorem discard_descriptors (v : Value) : discard (descriptors resolve v) = followAll resolve (listReferences v) := by
  have hitems : ∀ ps : List (Value × Nat), discard (sequence (readings resolve ps)) =
      followAll resolve ((ps.map Prod.fst).flatMap fieldReferences) := by
    intro ps
    induction ps with
    | nil => rfl
    | cons p ps ih => exact discard_both ((discard_within _ _).trans (discard_descriptor p.1)) ih
  unfold descriptors
  split
  · next items =>
    refine (hitems items.zipIdx).trans ?_
    rw [List.zipIdx_map_fst, listReferences]
  · next hlist =>
    cases v <;> first
      | rfl
      | exact absurd rfl (hlist _)

/-- **A reading follows the references of its document**, one after the other, and does nothing else. -/
theorem discard_config (v : Value) : discard (config resolve v) = followAll resolve (references v) := by
  unfold config
  split
  · exact discard_both (discard_optional discard_descriptors) (discard_optional discard_descriptors)
  · next hdict =>
    cases v <;> first
      | rfl
      | exact absurd rfl (hdict _)

end Document

/-! ## References that fail -/

namespace Reference

variable {scope : Scope Act} {w w' : World} {f : Failure}

/-- The reference names a module relative to one that is not there. -/
def IsRelative (reference : String) : Prop :=
  ∃ module path, splitColon reference.toList = ('.' :: module, some path) ∧ path ≠ []

/-- Following names fails with something else than an error of the field configuration only where a part of the
application cannot be looked at, and not for want of an attribute. -/
theorem look_of_follow_error {reference : String} {names : List String} {place : Option (Member × String)} {m : Member}
    (h : (follow scope reference place m names).perform w = (.error f, w')) (hf : f.isFieldError = false) :
    ∃ part u, (scope.look part).perform u = (.error f, w') ∧ f.lacksAttribute = false := by
  induction names generalizing place m w with
  | nil => cases h
  | cons name rest ih =>
    unfold follow at h
    dsimp only at h
    split at h
    · next next _ =>
      rcases perform_bind_error_iff.1 h with hsettle | ⟨_, _, -, hrest⟩
      · obtain ⟨e, hfails, htold⟩ := perform_recast_error_iff.1 hsettle
        have hpresent : e.lacksAttribute = false := by
          refine Bool.eq_false_iff.2 fun hlacks => ?_
          rw [if_pos hlacks] at htold
          rw [← htold] at hf
          cases hf
        obtain rfl : e = f := by rwa [hpresent, if_neg Bool.false_ne_true] at htold
        cases next with
        | live part forms =>
          rcases perform_bind_error_iff.1 hfails with hlook | ⟨_, _, -, ⟨⟩⟩
          exact ⟨part, w, hlook, hpresent⟩
        | function | data => cases hfails
      · exact ih hrest
    · cases h
      cases hf

/-- A relative reference always fails, and not with an error of the field configuration. -/
theorem resolve_of_isRelative {reference : String} (h : IsRelative reference) (scope : Scope Act) :
    ∃ text, resolve scope (.text reference) = throw (.fault .type text) := by
  obtain ⟨module, path, hsplit, hpath⟩ := h
  have htext : ∃ text, resolveText scope reference = throw (.fault .type text) := by
    unfold resolveText
    rw [hsplit]
    dsimp only
    rw [if_neg (by simp [hpath]), if_pos List.head?_cons]
    exact ⟨_, rfl⟩
  obtain ⟨text, htext⟩ := htext
  refine ⟨text, ?_⟩
  show (resolveText scope reference >>= fun f => pure (some f)) = throw (.fault .type text)
  rw [htext]
  rfl

/-- The error about a value that is no function is one of the field configuration, or is reported of the value. -/
theorem reported_unfit {v : Value} (hf : (unfit v).isFieldError = false) : Document.reported? (unfit v) ≠ none := by
  unfold unfit at hf ⊢
  by_cases hlong : v.holdsLong = true
  · rw [if_pos hlong]
    exact Option.some_ne_none _
  · rw [if_neg hlong] at hf
    cases hf

/-- A reference fails with something that is neither an error of the field configuration nor reported only if it is
relative or looks at a part of the application that cannot be made. -/
theorem escapes_cases {v : Value} (h : (resolve scope v).perform w = (.error f, w')) (hf : f.isFieldError = false)
    (hraised : Document.reported? f = none) : ∃ reference, v = .text reference ∧
      (IsRelative reference ∨ ∃ part u, (scope.look part).perform u = (.error f, w') ∧ f.lacksAttribute = false) := by
  unfold resolve at h
  split at h
  · cases h
  · cases h
  · next reference =>
    refine ⟨reference, rfl, ?_⟩
    rcases perform_bind_error_iff.1 h with h | ⟨_, _, -, ⟨⟩⟩
    unfold resolveText at h
    split at h
    · next module path hsplit =>
      split at h
      · cases h
        cases hf
      dsimp only at h
      split at h
      · next hempty hhead =>
        obtain ⟨module, rfl⟩ := List.head?_eq_some_iff.1 hhead
        refine .inl ⟨module, path, hsplit, ?_⟩
        rintro rfl
        exact hempty rfl
      split at h
      · cases h
        cases hf
      · rcases perform_bind_error_iff.1 h with hfollow | ⟨found, _, -, hfound⟩
        · exact .inr (look_of_follow_error hfollow hf)
        · split at hfound <;> cases hfound <;> cases hf
    · cases h
      cases hf
  · obtain ⟨hunfit, -⟩ := Prod.mk.inj h
    obtain rfl := Except.error.inj hunfit
    exact absurd hraised (reported_unfit hf)

end Reference

/-! ## Files that cannot be loaded -/

namespace ConfigFile

/-- The path leads to a file with these bytes. -/
structure Holds (files : Files) (path : String) (bytes : List UInt8) : Prop where
  sound : pathFault? path = none
  found : files.read? path = some bytes

/-- What reading a file fails with other than an error of the field configuration. -/
inductive Unreadable (files : Files) (path : String) : Failure → Prop
  | path {f : Failure} (h : pathFault? path = some f) : Unreadable files path f
  | bytes {bytes : List UInt8} {e : Utf8.Error} (h : Holds files path bytes) (he : Utf8.decode bytes = .error e) :
      Unreadable files path (.unreadable e)
  | nesting {bytes : List UInt8} {text : String} {e : Json.Error} {array : Bool} (h : Holds files path bytes)
      (htext : Utf8.decode bytes = .ok text) (he : Json.readAll (Json.unifyLines text.toList) = .error e)
      (hfault : e.fault = .tooDeep array) :
      Unreadable files path (.fault (.other "RecursionError") e.fault.message)
  | number {bytes : List UInt8} {text : String} {e : Json.Error} {digits : Nat} (h : Holds files path bytes)
      (htext : Utf8.decode bytes = .ok text) (he : Json.readAll (Json.unifyLines text.toList) = .error e)
      (hfault : e.fault = .tooLong digits) :
      Unreadable files path (.fault .value e.fault.message)

variable {files : Files} {path : String} {f : Failure}

/-- The faults of paths are no errors of the field configuration. -/
theorem isFieldError_of_unwritable {position : Nat} {ps : List Text.Point} (h : unwritable? position ps = some f) :
    f.isFieldError = false := by
  induction ps generalizing position with
  | nil => cases h
  | cons p rest ih =>
    unfold unwritable? at h
    split at h
    · cases h
      rfl
    · exact ih h

theorem isFieldError_of_pathFault (h : pathFault? path = some f) : f.isFieldError = false := by
  unfold pathFault? at h
  cases hwrite : unwritable? 0 (Text.pointsOf path) with
  | some f' =>
    rw [hwrite] at h
    cases h
    exact isFieldError_of_unwritable hwrite
  | none =>
    rw [hwrite, Option.orElse_none] at h
    split at h <;> cases h
    rfl

/-- Of texts that are no JSON, those that are nested too deeply and those with too long numbers are passed on. -/
theorem jsonFailure_escapes {cs : List Char} {e : Json.Error} (hf : (jsonFailure path cs e).isFieldError = false) :
    (∃ array, e.fault = .tooDeep array ∧ jsonFailure path cs e = .fault (.other "RecursionError") e.fault.message) ∨
      ∃ digits, e.fault = .tooLong digits ∧ jsonFailure path cs e = .fault .value e.fault.message := by
  unfold jsonFailure at hf ⊢
  split at hf
  · next array h => exact .inl ⟨array, h, rfl⟩
  · next digits h => exact .inr ⟨digits, h, rfl⟩
  · cases hf

/-- **What reading a file fails with** other than an error of the field configuration, and when. -/
theorem unreadable_iff : readDocument files path = .error f ∧ f.isFieldError = false ↔ Unreadable files path f := by
  constructor
  · rintro ⟨h, hf⟩
    unfold readDocument at h
    split at h
    · next hpath =>
      cases h
      exact .path hpath
    next hpath =>
    split at h
    · cases h
      cases hf
    next bytes hfile =>
    have hholds : Holds files path bytes := ⟨hpath, hfile⟩
    unfold Utf8.text at h
    cases htext : Utf8.decode bytes with
    | error e =>
      rw [htext] at h
      cases h
      exact .bytes hholds htext
    | ok text =>
      rw [htext] at h
      dsimp only at h
      split at h
      · next e he =>
        cases h
        rcases jsonFailure_escapes hf with ⟨array, hfault, heq⟩ | ⟨digits, hfault, heq⟩ <;> rw [heq]
        · exact .nesting hholds htext he hfault
        · exact .number hholds htext he hfault
      · cases h
  · rintro (hpath | ⟨hholds, he⟩ | ⟨hholds, htext, he, hfault⟩ | ⟨hholds, htext, he, hfault⟩) <;> unfold readDocument
    · exact ⟨by rw [hpath], isFieldError_of_pathFault hpath⟩
    · exact ⟨by simp only [hholds.sound, hholds.found, Utf8.text, he], rfl⟩
    · exact ⟨by simp only [hholds.sound, hholds.found, Utf8.text, htext, he, jsonFailure, hfault], rfl⟩
    · exact ⟨by simp only [hholds.sound, hholds.found, Utf8.text, htext, he, jsonFailure, hfault], rfl⟩

/-- What loading a file fails with other than an error of the field configuration: what reading it does, or what the
first reference in it does whose failure is not reported of the document. -/
inductive Escapes (resolve : Document.Resolver Act) (files : Files) (path : String) :
    World → Failure → World → Prop
  | file {f : Failure} {w : World} (h : Unreadable files path f) : Escapes resolve files path w f w
  | reference {entries : List (String × Value)} {earlier later : List Value} {v : Value} {f : Failure} {w u w' : World}
      (hread : readDocument files path = .ok (.dict entries))
      (hreferences : Document.references (.dict entries) = earlier ++ v :: later)
      (hearlier : (Document.followAll resolve earlier).perform w = (.ok (), u))
      (hfails : (resolve v).perform u = (.error f, w')) (hraised : Document.reported? f = none)
      (hf : f.isFieldError = false) :
      Escapes resolve files path w f w'

variable {resolve : Document.Resolver Act} {w w' : World}

/-- Describing fields fails with other than an error of the field configuration just where a reference does. -/
theorem ofDocument_escapes_iff {v : Value} :
    (ofDocument resolve path v).perform w = (.error f, w') ∧ f.isFieldError = false ↔ ∃ entries earlier r later u,
      v = .dict entries ∧ Document.references (.dict entries) = earlier ++ r :: later ∧
      (Document.followAll resolve earlier).perform w = (.ok (), u) ∧ (resolve r).perform u = (.error f, w') ∧
      Document.reported? f = none ∧ f.isFieldError = false := by
  have hconfig {entries : List (String × Value)} :
      (Document.config resolve (.dict entries)).perform w = (.error f, w') ↔ ∃ earlier r later u,
        Document.references (.dict entries) = earlier ++ r :: later ∧
        (Document.followAll resolve earlier).perform w = (.ok (), u) ∧ (resolve r).perform u = (.error f, w') ∧
        Document.reported? f = none := by
    rw [← perform_discard_error_iff, Document.discard_config, Document.followAll, perform_forM_error_iff]
    simp only [perform_discard_error_iff, Document.perform_function_error_iff]
    rfl
  constructor
  · rintro ⟨h, hf⟩
    unfold ofDocument at h
    split at h
    · next entries =>
      rcases perform_bind_error_iff.1 h with h | ⟨result, u, -, h⟩
      · obtain ⟨earlier, r, later, u, hreferences, hearlier, hr, hraised⟩ := hconfig.1 h
        exact ⟨entries, earlier, r, later, u, rfl, hreferences, hearlier, hr, hraised, hf⟩
      · split at h <;> cases h
        cases hf
    · cases h
      cases hf
  · rintro ⟨entries, earlier, r, later, u, rfl, hreferences, hearlier, hr, hraised, hf⟩
    refine ⟨?_, hf⟩
    exact perform_bind_error (hconfig.2 ⟨earlier, r, later, u, hreferences, hearlier, hr, hraised⟩) _

end ConfigFile

/-- **What loading a field configuration fails with** other than an error of the field configuration, and when: exactly
what escapes. A reference only escapes if it is relative or looks at a part of the application that cannot be made, and
if it is relative it does. -/
theorem FieldConfig.load_escapes_iff (env : Surroundings) :
    (∀ files path w f w', (load (Application.resolve env) files path).perform w = (.error f, w') ∧
        f.isFieldError = false ↔
      ConfigFile.Escapes (Application.resolve env) files (ConfigFile.normalize path) w f w') ∧
    (∀ v w f w', (Application.resolve env v).perform w = (.error f, w') → f.isFieldError = false →
      Document.reported? f = none → ∃ reference, v = .text reference ∧
        (Reference.IsRelative reference ∨
          ∃ part u, (Application.look env part).perform u = (.error f, w') ∧ f.lacksAttribute = false)) ∧
    ∀ reference, Reference.IsRelative reference → ∀ w, ∃ text,
      (Application.resolve env (.text reference)).perform w = (.error (.fault .type text), w) := by
  refine ⟨fun files path w f w' => ?_, fun v w f w' h hf hraised => ?_, fun reference h w => ?_⟩
  · unfold load
    dsimp only
    constructor
    · rintro ⟨h, hf⟩
      split at h
      · next hread =>
        cases h
        exact .file (ConfigFile.unreadable_iff.1 ⟨hread, hf⟩)
      · next hread =>
        obtain ⟨_, _, _, _, _, rfl, hreferences, hearlier, hr, hraised, hf⟩ :=
          ConfigFile.ofDocument_escapes_iff.1 ⟨h, hf⟩
        exact .reference hread hreferences hearlier hr hraised hf
    · rintro (hfile | ⟨hread, hreferences, hearlier, hr, hraised, hf⟩)
      · obtain ⟨hread, hf⟩ := ConfigFile.unreadable_iff.2 hfile
        exact ⟨by rw [hread]; rfl, hf⟩
      · rw [hread]
        exact ConfigFile.ofDocument_escapes_iff.2 ⟨_, _, _, _, _, rfl, hreferences, hearlier, hr, hraised, hf⟩
  · rcases perform_bind_error_iff.1 h with ⟨⟨⟩⟩ | ⟨_, _, ⟨⟩, hresolve⟩
    exact Reference.escapes_cases hresolve hf hraised
  · obtain ⟨text, hthrow⟩ := Reference.resolve_of_isRelative h ⟨w.catalogue, Application.look env⟩
    refine ⟨text, ?_⟩
    unfold Application.resolve
    rw [perform_bind_ok (perform_get w), hthrow, perform_throw]

/-- A path that no file can have, and a relative reference. -/
theorem FieldConfig.load_escapes_iff_null :
    let resolve := Application.resolve Application.surroundings
    (load resolve [] "fields\x00.json").perform {} = (.error (.fault .value "embedded null byte"), {}) ∧
      ∃ text, (resolve (.text ".callbacks:status")).perform {} = (.error (.fault .type text), {}) := by
  intro resolve
  obtain ⟨hload, -, hrelative⟩ := load_escapes_iff Application.surroundings
  have hnormal : ConfigFile.normalize "fields\x00.json" = "fields\x00.json" := by decide +kernel
  have hwritable : ConfigFile.unwritable? 0 (Text.pointsOf "fields\x00.json") = none :=
    Option.isNone_iff_eq_none.1 (by decide +kernel)
  have hpath : ConfigFile.pathFault? (ConfigFile.normalize "fields\x00.json") =
      some (.fault .value "embedded null byte") := by
    rw [hnormal, ConfigFile.pathFault?, hwritable, Option.orElse_none, if_pos (by decide +kernel)]
  have hsplit : Reference.splitColon ".callbacks:status".toList = ('.' :: "callbacks".toList, some "status".toList) := by
    decide +kernel
  exact ⟨((hload _ _ _ _ _).2 (.file (.path hpath))).1, hrelative _ ⟨_, _, hsplit, by decide +kernel⟩ {}⟩

/-- Bytes that are no UTF-8 are not reported by an error of the field configuration. -/
theorem not_load_fails_with_field_error :
    ∃ f, (FieldConfig.load (Application.resolve Application.surroundings) [("fields.json", [0xff])]
      "fields.json").perform {} = (.error f, {}) ∧ f.kindName = "UnicodeDecodeError" ∧ f.isFieldError = false := by
  have hnormal : ConfigFile.normalize "fields.json" = "fields.json" := by decide +kernel
  have hwritable : ConfigFile.unwritable? 0 (Text.pointsOf "fields.json") = none :=
    Option.isNone_iff_eq_none.1 (by decide +kernel)
  have hpath : ConfigFile.pathFault? "fields.json" = none := by
    rw [ConfigFile.pathFault?, hwritable, Option.orElse_none, if_neg (by decide +kernel)]
  have hdecode : Utf8.decode [0xff] = .error ⟨0, 1, 0xff, .invalidStart⟩ := by
    unfold Utf8.decode Utf8.decodeFrom
    rfl
  have hholds : ConfigFile.Holds [("fields.json", [0xff])] "fields.json" [0xff] := ⟨hpath, rfl⟩
  obtain ⟨hread, hf⟩ := ConfigFile.unreadable_iff.2 (.bytes hholds hdecode)
  refine ⟨_, ?_, rfl, hf⟩
  unfold FieldConfig.load
  dsimp only
  rw [hnormal, hread]
  rfl

end ActivityLog
