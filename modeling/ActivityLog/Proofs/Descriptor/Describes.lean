import ActivityLog.Application
import ActivityLog.Proofs.Logging.Event
import ActivityLog.Proofs.Reading

/-!
# What documents describe

`Document.Describes` says which field configuration a document describes, entry by entry, and which references have to
be followed for that. A reading succeeds exactly on these documents and gives what they describe
(`FieldConfig.ofValue_describes`). Following a reference may make parts of the application, so the states before and
after it belong to the relation.

A reading that gives something has no issues in any of its parts (`gives_both`).
-/

namespace ActivityLog

open Act

namespace Document

/-! ## What is described -/

section Describes

variable (resolve : Resolver Act)

/-- The function that an entry refers to: none if it is left out or null. -/
inductive NamesFunction (entries : List (String × Value)) (name : String) :
    World → Option FieldFunction → World → Prop
  | absent {w : World} (h : entries.lookup name = none) : NamesFunction entries name w none w
  | null {w : World} (h : entries.lookup name = some .null) : NamesFunction entries name w none w
  | reference {v : Value} {f : FieldFunction} {w w' : World} (h : entries.lookup name = some v)
      (hf : (resolve v).perform w = (.ok (some f), w')) : NamesFunction entries name w (some f) w'

/-- The source that an object describes. -/
inductive DescribesSource : Value → World → Source → World → Prop
  | header {entries : List (String × Value)} {name : String} {w : World}
      (htype : entries.lookup "type" = some (.text "header")) (hname : entries.lookup "name" = some (.text name)) :
      DescribesSource (.dict entries) w (.header name) w
  | fixed {entries : List (String × Value)} {w : World} (htype : entries.lookup "type" = some (.text "static")) :
      DescribesSource (.dict entries) w (.fixed ((entries.lookup "value").getD .null)) w
  | field {entries : List (String × Value)} {name : String} {w : World}
      (htype : entries.lookup "type" = some (.text "field")) (hname : entries.lookup "name" = some (.text name)) :
      DescribesSource (.dict entries) w (.field name) w
  | self {entries : List (String × Value)} {name : String} {w : World}
      (htype : entries.lookup "type" = some (.text "self")) (hname : entries.lookup "name" = some (.text name)) :
      DescribesSource (.dict entries) w (.self name) w
  | time {entries : List (String × Value)} {pre post : Option FieldFunction} {w w₁ w₂ : World}
      (htype : entries.lookup "type" = some (.text "time")) (hpre : NamesFunction resolve entries "pre" w pre w₁)
      (hpost : NamesFunction resolve entries "post" w₁ post w₂) :
      DescribesSource (.dict entries) w (.time pre post) w₂
  | special {entries : List (String × Value)} {w : World} (htype : entries.lookup "type" = some (.text "special")) :
      DescribesSource (.dict entries) w .special w

/-- A name that a field can have: a text of whole characters that is not empty. -/
structure IsFieldName (name : String) : Prop where
  ne_empty : name ≠ ""
  whole : Text.hasHalves name = false

/-- The field that an object describes. -/
inductive DescribesField : Value → World → Descriptor → World → Prop
  | mk {entries : List (String × Value)} {name : String} {inner : Value} {source : Source} {mandatory : Bool}
      {fallback : Option FieldFunction} {w w₁ w₂ : World} (hname : entries.lookup "name" = some (.text name))
      (hvalid : IsFieldName name) (hinner : entries.lookup "source" = some inner)
      (hsource : DescribesSource resolve inner w source w₁)
      (hmandatory : (entries.lookup "mandatory").elim (.ok false) truth = .ok mandatory)
      (hfallback : NamesFunction resolve entries "fallback" w₁ fallback w₂) :
      DescribesField (.dict entries) w ⟨name, source, mandatory, (entries.lookup "default").getD .null, fallback⟩ w₂

/-- The fields that objects describe, in their order. -/
inductive DescribesFields : List Value → World → List Descriptor → World → Prop
  | nil {w : World} : DescribesFields [] w [] w
  | cons {v : Value} {items : List Value} {d : Descriptor} {ds : List Descriptor} {w w₁ w₂ : World}
      (hfirst : DescribesField resolve v w d w₁) (hrest : DescribesFields items w₁ ds w₂) :
      DescribesFields (v :: items) w (d :: ds) w₂

/-- The items of a list that may be left out. -/
inductive HasItems (entries : List (String × Value)) (name : String) : List Value → Prop
  | absent (h : entries.lookup name = none) : HasItems entries name []
  | list {items : List Value} (h : entries.lookup name = some (.list items)) : HasItems entries name items

/-- **The field configuration that a document describes.** -/
inductive Describes : Value → World → FieldConfig → World → Prop
  | mk {entries : List (String × Value)} {pre post : List Value} {before after : List Descriptor} {w w₁ w₂ : World}
      (hpre : HasItems entries "pre" pre) (hbefore : DescribesFields resolve pre w before w₁)
      (hpost : HasItems entries "post" post) (hafter : DescribesFields resolve post w₁ after w₂) :
      Describes (.dict entries) w ⟨before, after⟩ w₂

end Describes

/-! ## Readings of entries -/

/-- A resolver that answers null, and only null, with nothing, and leaves functions as they are. -/
structure Plain (resolve : Resolver Act) : Prop where
  null : ∀ w, (resolve .null).perform w = (.ok none, w)
  eq_null : ∀ v w w', (resolve v).perform w = (.ok none, w') → v = .null
  function : ∀ f w, (resolve (.function f)).perform w = (.ok (some f), w)

section Entries

variable {resolve : Resolver Act} {entries : List (String × Value)} {name : String} {v : Value} {w w' : World}

/-- A function that may be left out is the one that its entry names. -/
theorem gives_optional_function (hresolve : Plain resolve) {f : Option FieldFunction} :
    Gives (optional entries name none (function resolve)) w f w' ↔ NamesFunction resolve entries name w f w' := by
  rw [gives_optional]
  constructor
  · rintro (⟨hnone, rfl, rfl⟩ | ⟨v, hv, hf⟩)
    · exact .absent hnone
    · rw [gives_function] at hf
      cases f with
      | some f => exact .reference hv hf
      | none =>
        obtain rfl := hresolve.eq_null v w w' hf
        rw [hresolve.null] at hf
        cases hf
        exact .null hv
  · rintro (hnone | hnull | ⟨hv, hf⟩)
    · exact .inl ⟨hnone, rfl, rfl⟩
    · exact .inr ⟨.null, hnull, gives_function.2 (hresolve.null w)⟩
    · exact .inr ⟨_, hv, gives_function.2 hf⟩

/-- A truth value that may be left out. -/
theorem gives_optional_truth {b : Bool} : Gives (optional entries name false (pure ∘ truth)) w b w' ↔
    (entries.lookup name).elim (.ok false) truth = .ok b ∧ w' = w := by
  rw [gives_optional]
  cases entries.lookup name with
  | none => simp
  | some v => simp [gives_pure]

theorem eq_text_of_isJson {s : String} (hv : v.isJson = true) (h : text v = .ok s) : v = .text s := by
  cases v <;> first
    | exact congrArg _ (Except.ok.inj h)
    | cases h
    | cases hv

theorem nonEmptyText_eq_ok_iff {s : String} : nonEmptyText v = .ok s ↔ text v = .ok s ∧ IsFieldName s := by
  unfold nonEmptyText
  cases text v with
  | error issues => simp [Except.bind]
  | ok t =>
    simp only [Except.bind, notUnicode, issue, Except.ok.injEq]
    split
    · next h =>
      constructor
      · rintro ⟨⟩
      · rintro ⟨rfl, hname⟩
        rw [hname.whole] at h
        cases h
    · next hwhole =>
      split
      · next h =>
        constructor
        · rintro ⟨⟩
        · rintro ⟨rfl, hname⟩
          exact absurd (String.isEmpty_iff.1 h) hname.ne_empty
      · next hempty =>
        constructor
        · rintro ⟨⟩
          exact ⟨rfl, fun h => hempty (String.isEmpty_iff.2 h), Bool.not_eq_true _ ▸ hwhole⟩
        · rintro ⟨rfl, -⟩
          rfl

end Entries

/-! ## Readings of sources -/

/-- A kind is named by its tag alone. -/
theorem SourceKind.ofTag?_eq_some_iff {tag : Value} {kind : SourceKind} :
    ofTag? tag = some kind ↔ tag = .text kind.tag := by
  refine ⟨fun h => ?_, fun h => h ▸ ofTag?_tag kind⟩
  cases tag <;> first
    | cases h
    | skip
  have hfound := List.find?_some h
  rw [beq_iff_eq] at hfound
  rw [hfound]

section Sources

variable {resolve : Resolver Act} {entries : List (String × Value)} {v : Value} {s : Source} {w w' : World}

/-- A source with the tag of its kind gives what the fields of that kind give. -/
theorem gives_source_dict (kind : SourceKind) (htype : entries.lookup "type" = some (.text kind.tag)) :
    Gives (source resolve (.dict entries)) w s w' ↔ Gives (sourceFields resolve kind entries) w s w' := by
  unfold source
  simp only [htype, SourceKind.ofTag?_tag]
  exact gives_within

/-- What is read as a source is an object with the tag of a kind. -/
theorem exists_kind_of_gives (h : Gives (source resolve v) w s w') :
    ∃ entries kind, v = .dict entries ∧ entries.lookup "type" = some (.text (SourceKind.tag kind)) := by
  unfold source at h
  dsimp only at h
  split at h
  · cases h
  · cases h
  · next tag htag =>
    split at h
    · cases h
    · next kind hkind =>
      rw [gives_within] at h
      split at h
      · next entries =>
        refine ⟨entries, kind, rfl, ?_⟩
        rw [SourceKind.ofTag?_eq_some_iff] at hkind
        rw [← hkind]
        exact Option.some.inj htag
      · cases h

/-- A described source is read. -/
theorem DescribesSource.gives (hresolve : Plain resolve) (h : DescribesSource resolve v w s w') :
    Gives (source resolve v) w s w' := by
  have hname {entries : List (String × Value)} {name : String} {w : World}
      (h : entries.lookup "name" = some (.text name)) :
      Gives (required entries "name" (pure ∘ text)) w name w := gives_required.2 ⟨_, h, gives_pure.2 ⟨rfl, rfl⟩⟩
  cases h with
  | header htype h => exact (gives_source_dict .header htype).2 (gives_mapResult.2 ⟨_, hname h, rfl⟩)
  | fixed htype => exact (gives_source_dict .fixed htype).2 rfl
  | field htype h => exact (gives_source_dict .field htype).2 (gives_mapResult.2 ⟨_, hname h, rfl⟩)
  | self htype h => exact (gives_source_dict .self htype).2 (gives_mapResult.2 ⟨_, hname h, rfl⟩)
  | time htype hpre hpost =>
    have hpre := (gives_optional_function hresolve).2 hpre
    have hpost := (gives_optional_function hresolve).2 hpost
    exact (gives_source_dict .time htype).2 (gives_both.2 ⟨_, _, _, hpre, hpost, rfl⟩)
  | special htype => exact (gives_source_dict .special htype).2 rfl

/-- What is read as a source from plain data is described by them. -/
theorem describesSource_of_gives (hresolve : Plain resolve) (hv : v.isJson = true)
    (h : Gives (source resolve v) w s w') : DescribesSource resolve v w s w' := by
  obtain ⟨entries, kind, rfl, htype⟩ := exists_kind_of_gives h
  rw [gives_source_dict kind htype] at h
  have hname {name : String} {w w' : World} (h : Gives (required entries "name" (pure ∘ text)) w name w') :
      entries.lookup "name" = some (.text name) ∧ w' = w := by
    obtain ⟨v, hlookup, hgives⟩ := gives_required.1 h
    obtain ⟨htext, rfl⟩ := gives_pure.1 hgives
    exact ⟨eq_text_of_isJson (Value.isJson_of_lookup hv hlookup) htext ▸ hlookup, rfl⟩
  cases kind with
  | header =>
    obtain ⟨name, hgives, rfl⟩ := gives_mapResult.1 h
    obtain ⟨hlookup, rfl⟩ := hname hgives
    exact .header htype hlookup
  | fixed =>
    obtain ⟨hsource, rfl⟩ := gives_pure.1 h
    exact Except.ok.inj hsource ▸ .fixed htype
  | field =>
    obtain ⟨name, hgives, rfl⟩ := gives_mapResult.1 h
    obtain ⟨hlookup, rfl⟩ := hname hgives
    exact .field htype hlookup
  | self =>
    obtain ⟨name, hgives, rfl⟩ := gives_mapResult.1 h
    obtain ⟨hlookup, rfl⟩ := hname hgives
    exact .self htype hlookup
  | time =>
    obtain ⟨pre, v, post, hpre, hpost, rfl⟩ := gives_both.1 h
    exact .time htype ((gives_optional_function hresolve).1 hpre) ((gives_optional_function hresolve).1 hpost)
  | special =>
    obtain ⟨hsource, rfl⟩ := gives_pure.1 h
    exact Except.ok.inj hsource ▸ .special htype

end Sources

/-! ## Readings of fields -/

section Fields

variable {resolve : Resolver Act} {entries : List (String × Value)} {v : Value} {d : Descriptor} {w w' : World}

/-- A field is read from an object, part by part. -/
theorem gives_descriptor : Gives (descriptor resolve v) w d w' ↔ ∃ entries w₁, v = .dict entries ∧
    Gives (required entries "name" (pure ∘ nonEmptyText)) w d.name w ∧
    Gives (required entries "source" (source resolve)) w d.source w₁ ∧
    (entries.lookup "mandatory").elim (.ok false) truth = .ok d.mandatory ∧
    Gives (optional entries "fallback" none (function resolve)) w₁ d.fallback w' ∧
    d.default = (entries.lookup "default").getD .null := by
  unfold descriptor
  split
  · next entries =>
    simp only [gives_both]
    constructor
    · rintro ⟨_, w₁, _, ⟨name, v, source, hname, hsource, rfl⟩, ⟨mandatory, u, fallback, hmandatory, hfallback, rfl⟩,
        rfl⟩
      rw [gives_optional_truth] at hmandatory
      obtain ⟨v', hv', hname'⟩ := gives_required.1 hname
      obtain ⟨-, rfl⟩ := gives_pure.1 hname'
      obtain ⟨hmandatory, rfl⟩ := hmandatory
      exact ⟨entries, _, rfl, hname, hsource, hmandatory, hfallback, rfl⟩
    · rintro ⟨_, w₁, ⟨⟩, hname, hsource, hmandatory, hfallback, hdefault⟩
      have hflag : Gives _ w₁ d.mandatory w₁ := gives_optional_truth.2 ⟨hmandatory, rfl⟩
      refine ⟨_, w₁, _, ⟨_, _, _, hname, hsource, rfl⟩, ⟨_, _, _, hflag, hfallback, rfl⟩, ?_⟩
      rw [← hdefault]
  · next hdict =>
    constructor
    · intro h
      cases h
    · rintro ⟨entries, _, rfl, -⟩
      exact absurd rfl (hdict entries)

/-- A described field is read. -/
theorem DescribesField.gives (hresolve : Plain resolve) (h : DescribesField resolve v w d w') :
    Gives (descriptor resolve v) w d w' := by
  obtain ⟨hname, hvalid, hinner, hsource, hmandatory, hfallback⟩ := h
  have hread : nonEmptyText (.text _) = .ok _ := nonEmptyText_eq_ok_iff.2 ⟨rfl, hvalid⟩
  have hcallback := (gives_optional_function hresolve).2 hfallback
  exact gives_descriptor.2 ⟨_, _, rfl, gives_required.2 ⟨_, hname, gives_pure.2 ⟨hread, rfl⟩⟩,
    gives_required.2 ⟨_, hinner, hsource.gives hresolve⟩, hmandatory, hcallback, rfl⟩

/-- What is read as a field has a name that fields can have. -/
theorem isFieldName_of_gives (h : Gives (descriptor resolve v) w d w') : IsFieldName d.name := by
  obtain ⟨entries, _, -, hname, -⟩ := gives_descriptor.1 h
  obtain ⟨_, -, hread⟩ := gives_required.1 hname
  exact (nonEmptyText_eq_ok_iff.1 (gives_pure.1 hread).1).2

/-- What is read as a field from plain data is described by them. -/
theorem describesField_of_gives (hresolve : Plain resolve) (hv : v.isJson = true)
    (h : Gives (descriptor resolve v) w d w') : DescribesField resolve v w d w' := by
  have hvalid := isFieldName_of_gives h
  obtain ⟨name, source, mandatory, default, fallback⟩ := d
  obtain ⟨entries, w₁, rfl, hname, hsource, hmandatory, hfallback, rfl⟩ := gives_descriptor.1 h
  obtain ⟨u, hu, hread⟩ := gives_required.1 hname
  obtain ⟨htext, -⟩ := nonEmptyText_eq_ok_iff.1 (gives_pure.1 hread).1
  obtain rfl := eq_text_of_isJson (Value.isJson_of_lookup hv hu) htext
  obtain ⟨inner, hinner, hgives⟩ := gives_required.1 hsource
  have hdescribes := describesSource_of_gives hresolve (Value.isJson_of_lookup hv hinner) hgives
  exact .mk hu hvalid hinner hdescribes hmandatory ((gives_optional_function hresolve).1 hfallback)

end Fields

/-! ## Readings of lists of fields -/

section Lists

variable {resolve : Resolver Act} {entries : List (String × Value)} {name : String} {v : Value} {items : List Value}
  {ps : List (Value × Nat)} {ds : List Descriptor} {w w' : World}

/-- The readings of numbered items. -/
def readings (resolve : Resolver Act) (ps : List (Value × Nat)) : List (Act (Checked Descriptor)) :=
  ps.map fun (item, i) => within [.index i] (descriptor resolve item)

theorem gives_readings_nil : Gives (sequence (readings resolve [])) w ds w' ↔ ds = [] ∧ w' = w := by
  refine gives_pure.trans (and_congr_left fun _ => ?_)
  rw [Except.ok.injEq, eq_comm]

/-- Items are read one after the other. -/
theorem gives_readings_cons {p : Value × Nat} : Gives (sequence (readings resolve (p :: ps))) w ds w' ↔
    ∃ d v rest, Gives (descriptor resolve p.1) w d v ∧ Gives (sequence (readings resolve ps)) v rest w' ∧
      d :: rest = ds := by
  have hfirst {d : Descriptor} {v : World} :
      Gives (within [.index p.2] (descriptor resolve p.1)) w d v ↔ Gives (descriptor resolve p.1) w d v := gives_within
  simp only [← hfirst]
  exact gives_both

theorem DescribesFields.gives (hresolve : Plain resolve) (h : DescribesFields resolve (ps.map Prod.fst) w ds w') :
    Gives (sequence (readings resolve ps)) w ds w' := by
  induction ps generalizing w ds with
  | nil =>
    cases h
    rfl
  | cons p ps ih =>
    obtain ⟨⟩ | ⟨hfirst, hrest⟩ := h
    exact gives_readings_cons.2 ⟨_, _, _, hfirst.gives hresolve, ih hrest, rfl⟩

theorem describesFields_of_gives (hresolve : Plain resolve) (hps : ∀ p ∈ ps, p.1.isJson = true)
    (h : Gives (sequence (readings resolve ps)) w ds w') : DescribesFields resolve (ps.map Prod.fst) w ds w' := by
  induction ps generalizing w ds with
  | nil =>
    obtain ⟨rfl, rfl⟩ := gives_readings_nil.1 h
    exact .nil
  | cons p ps ih =>
    obtain ⟨d, v, rest, hfirst, hrest, rfl⟩ := gives_readings_cons.1 h
    exact .cons (describesField_of_gives hresolve (hps p List.mem_cons_self) hfirst)
      (ih (fun q hq => hps q (List.mem_cons_of_mem _ hq)) hrest)

/-- Whatever is read as a list of fields, each has a name that fields can have. -/
theorem isFieldName_of_gives_readings (h : Gives (sequence (readings resolve ps)) w ds w') :
    ∀ d ∈ ds, IsFieldName d.name := by
  induction ps generalizing w ds with
  | nil =>
    obtain ⟨rfl, -⟩ := gives_readings_nil.1 h
    exact List.forall_mem_nil _
  | cons p ps ih =>
    obtain ⟨d, v, rest, hfirst, hrest, rfl⟩ := gives_readings_cons.1 h
    exact List.forall_mem_cons.2 ⟨isFieldName_of_gives hfirst, ih hrest⟩

/-- A list of fields that may be left out. -/
theorem gives_optional_descriptors : Gives (optional entries name [] (descriptors resolve)) w ds w' ↔
    ∃ items, HasItems entries name items ∧ Gives (sequence (readings resolve items.zipIdx)) w ds w' := by
  rw [gives_optional]
  constructor
  · rintro (⟨hnone, rfl, rfl⟩ | ⟨v, hv, hgives⟩)
    · exact ⟨[], .absent hnone, rfl⟩
    · unfold descriptors at hgives
      split at hgives
      · exact ⟨_, .list hv, hgives⟩
      · cases hgives
  · rintro ⟨items, hnone | hlist, hgives⟩
    · obtain ⟨rfl, rfl⟩ := gives_readings_nil.1 hgives
      exact .inl ⟨hnone, rfl, rfl⟩
    · exact .inr ⟨_, hlist, hgives⟩

theorem isJson_of_hasItems (hv : (Value.dict entries).isJson = true) (h : HasItems entries name items) :
    ∀ v ∈ items, v.isJson = true := by
  cases h with
  | absent => exact nofun
  | list h =>
    have hlist := Value.isJson_of_lookup hv h
    rw [Value.isJson] at hlist
    exact fun v => Value.isJson_of_mem hlist

end Lists

/-! ## Readings of configurations -/

section Configs

variable {resolve : Resolver Act} {v : Value} {c : FieldConfig} {w w' : World}

/-- A configuration is read from an object, one phase after the other. -/
theorem gives_config : Gives (config resolve v) w c w' ↔ ∃ entries pre post w₁, v = .dict entries ∧
    HasItems entries "pre" pre ∧ Gives (sequence (readings resolve pre.zipIdx)) w c.pre w₁ ∧
    HasItems entries "post" post ∧ Gives (sequence (readings resolve post.zipIdx)) w₁ c.post w' := by
  unfold config
  split
  · next entries =>
    simp only [gives_both, gives_optional_descriptors]
    constructor
    · rintro ⟨before, w₁, after, ⟨pre, hpre, hbefore⟩, ⟨post, hpost, hafter⟩, rfl⟩
      exact ⟨entries, pre, post, w₁, rfl, hpre, hbefore, hpost, hafter⟩
    · rintro ⟨_, pre, post, w₁, ⟨⟩, hpre, hbefore, hpost, hafter⟩
      exact ⟨_, w₁, _, ⟨pre, hpre, hbefore⟩, ⟨post, hpost, hafter⟩, rfl⟩
  · next hdict =>
    constructor
    · intro h
      cases h
    · rintro ⟨entries, _, _, _, rfl, -⟩
      exact absurd rfl (hdict entries)

theorem Describes.gives (hresolve : Plain resolve) (h : Describes resolve v w c w') :
    Gives (config resolve v) w c w' := by
  obtain @⟨entries, pre, post, before, after, _, w₁, _, hpre, hbefore, hpost, hafter⟩ := h
  rw [← List.zipIdx_map_fst 0 pre] at hbefore
  rw [← List.zipIdx_map_fst 0 post] at hafter
  exact gives_config.2 ⟨_, _, _, _, rfl, hpre, hbefore.gives hresolve, hpost, hafter.gives hresolve⟩

theorem describes_of_gives (hresolve : Plain resolve) (hv : v.isJson = true) (h : Gives (config resolve v) w c w') :
    Describes resolve v w c w' := by
  obtain ⟨before, after⟩ := c
  obtain ⟨entries, pre, post, w₁, rfl, hpre, hbefore, hpost, hafter⟩ := gives_config.1 h
  have hfields {name : String} {items : List Value} {ds : List Descriptor} {w w' : World}
      (hitems : HasItems entries name items) (h : Gives (sequence (readings resolve items.zipIdx)) w ds w') :
      DescribesFields resolve items w ds w' := by
    rw [← List.zipIdx_map_fst 0 items]
    refine describesFields_of_gives hresolve (fun p hp => isJson_of_hasItems hv hitems p.1 ?_) h
    exact List.fst_mem_of_mem_zipIdx hp
  exact .mk hpre (hfields hpre hbefore) hpost (hfields hpost hafter)

end Configs

/-! ## The dictionaries of configurations -/

section ToValue

variable {resolve : Resolver Act} (hresolve : Plain resolve) (w : World)

include hresolve

theorem namesFunction_ofFunction? {entries : List (String × Value)} {name : String} {f : Option FieldFunction}
    (h : entries.lookup name = some (.ofFunction? f)) : NamesFunction resolve entries name w f w := by
  cases f with
  | none => exact .null h
  | some f => exact .reference h (hresolve.function f w)

/-- The dictionary of a source describes it. -/
theorem describesSource_toValue (s : Source) : DescribesSource resolve s.toValue w s w := by
  cases s with
  | header name => exact .header rfl rfl
  | fixed value => exact .fixed rfl
  | field name => exact .field rfl rfl
  | self name => exact .self rfl rfl
  | time pre post =>
    exact .time rfl (namesFunction_ofFunction? hresolve w rfl) (namesFunction_ofFunction? hresolve w rfl)
  | special => exact .special rfl

theorem describesField_toValue {d : Descriptor} (hd : IsFieldName d.name) :
    DescribesField resolve d.toValue w d w :=
  .mk rfl hd rfl (describesSource_toValue hresolve w d.source) rfl (namesFunction_ofFunction? hresolve w rfl)

theorem describesFields_toValue {ds : List Descriptor} (hds : ∀ d ∈ ds, IsFieldName d.name) :
    DescribesFields resolve (ds.map (·.toValue)) w ds w := by
  induction ds with
  | nil => exact .nil
  | cons d ds ih =>
    obtain ⟨hd, hds⟩ := List.forall_mem_cons.1 hds
    exact .cons (describesField_toValue hresolve w hd) (ih hds)

end ToValue

end Document

/-! ## Reading and writing -/

/-- All fields of the configuration have names that fields can have. -/
def FieldConfig.WellNamed (c : FieldConfig) : Prop := ∀ phase, ∀ d ∈ c.phase phase, Document.IsFieldName d.name

/-- The dictionary of a configuration describes it. -/
theorem FieldConfig.describes_toValue {resolve : Document.Resolver Act} (hresolve : Document.Plain resolve)
    {c : FieldConfig} (hc : c.WellNamed) (w : World) : Document.Describes resolve c.toValue w c w :=
  .mk (.list rfl) (Document.describesFields_toValue hresolve w (hc .pre)) (.list rfl)
    (Document.describesFields_toValue hresolve w (hc .post))

/-- References of the application answer null, and only null, with nothing. -/
theorem Application.plain_resolve (env : Surroundings) : Document.Plain (Application.resolve env) where
  null _ := rfl
  function _ _ := rfl
  eq_null v w w' h := by
    obtain ⟨_, _, hget, h⟩ := of_perform_bind_eq h
    cases hget
    unfold Reference.resolve at h
    split at h
    · rfl
    · cases h
    · obtain ⟨f, _, -, hf⟩ := of_perform_bind_eq h
      cases hf
    · cases h

/-- **A document is read exactly if it describes a field configuration, and as the one that it describes.** Whatever is
read has names that fields can have; a configuration with such names is read back from its dictionary. -/
theorem FieldConfig.ofValue_describes (env : Surroundings) :
    (∀ v : Value, v.isJson = true → ∀ w c w', (ofValue (Application.resolve env) v).perform w = (.ok c, w') ↔
      Document.Describes (Application.resolve env) v w c w') ∧
    (∀ v w c w', (ofValue (Application.resolve env) v).perform w = (.ok c, w') → c.WellNamed) ∧
    ∀ c : FieldConfig, c.WellNamed → ∀ w, (ofValue (Application.resolve env) c.toValue).perform w = (.ok c, w) := by
  have hresolve := Application.plain_resolve env
  refine ⟨fun v hv w c w' => ?_, fun v w c w' h => ?_, fun c hc w => ?_⟩
  · rw [ofValue, Document.perform_orFail]
    exact ⟨Document.describes_of_gives hresolve hv, Document.Describes.gives hresolve⟩
  · rw [ofValue, Document.perform_orFail] at h
    obtain ⟨_, _, _, _, -, -, hbefore, -, hafter⟩ := Document.gives_config.1 h
    rintro (_ | _)
    · exact Document.isFieldName_of_gives_readings hbefore
    · exact Document.isFieldName_of_gives_readings hafter
  · rw [ofValue, Document.perform_orFail]
    exact (describes_toValue hresolve hc w).gives hresolve

/-- A document with one field, a word for a truth value, a reference, and an entry that means nothing. -/
def addressDocument : Value :=
  let source : Value := .dict [("type", .text "header"), ("name", .text "x-forwarded-for")]
  .dict [("pre", .list [.dict [("name", .text "ip"), ("source", source), ("mandatory", .text "yes"),
    ("fallback", .text "callbacks:address"), ("comment", .text "behind the proxy")]])]

/-- What the document says where the reference can be followed, and back. -/
theorem FieldConfig.ofValue_describes_address :
    let resolve := Application.resolve Application.surroundings
    let address : FieldFunction := .script (.const (some (.text "0.0.0.0")))
    let w : World := { catalogue := [("callbacks", [("address", .ofFunction address)])] }
    let c : FieldConfig := { pre := [⟨"ip", .header "x-forwarded-for", true, .null, some address⟩] }
    addressDocument.isJson = true ∧ c.WellNamed ∧ (ofValue resolve addressDocument).perform w = (.ok c, w) ∧
      (ofValue resolve c.toValue).perform w = (.ok c, w) := by
  intro resolve address w c
  obtain ⟨hreads, hnames, hback⟩ := ofValue_describes Application.surroundings
  have hname : Document.IsFieldName "ip" := ⟨by decide, by decide⟩
  have hdescribes : Document.Describes resolve addressDocument w c w :=
    .mk (.list rfl) (.cons (.mk rfl hname rfl (.header rfl rfl) (by rfl) (.reference rfl rfl)) .nil) (.absent rfl) .nil
  have hread := (hreads addressDocument rfl w c w).2 hdescribes
  have hc := hnames addressDocument w c w hread
  exact ⟨rfl, hc, hread, hback c hc w⟩

end ActivityLog
