import ActivityLog.Proofs.Descriptor.Escapes

/-!
# What a value resolves to

Where a function is wanted, there is nothing, a function, or a text that refers to one. `Reference.Names` is how such a
text is written: a module, the first colon of the text, and names with points in between. `Reference.Reaches` is the
walk along the names, from the module on.

`Application.resolve_iff` says for every value what comes of it: what it resolves to (`Gives`), which errors of the
field configuration it is refused with (`Rejects`), and what else it fails with (`Strays`). The last are a module that
is relative to none, a part of the application on the way that cannot be made, and a value with too long a number for
the error to show it; `not_resolve_fails_with_field_error` is of the first kind.
-/

namespace ActivityLog

open Act

namespace Reference

/-! ## How a reference is written -/

/-- A reference names a module, and what is to be looked for in it, name by name. -/
structure Names (reference module : String) (names : List String) : Prop where
  text : reference = module ++ ":" ++ ".".intercalate names
  /-- The colon is the first one. -/
  first : ':' ∉ module.toList
  module : module ≠ ""
  path : ".".intercalate names ≠ ""
  points : ∀ name ∈ names, '.' ∉ name.toList

section Splitting

variable {c : Char} {cs module path rest part : List Char}

theorem splitColon_cons_of_ne (hc : c ≠ ':') :
    splitColon (c :: rest) = (c :: (splitColon rest).1, (splitColon rest).2) := by
  rw [splitColon]
  exact hc

theorem splitColon_eq_iff : splitColon cs = (module, some path) ↔ cs = module ++ ':' :: path ∧ ':' ∉ module := by
  induction cs generalizing module with
  | nil => simp [splitColon]
  | cons c rest ih =>
    have hrest (before : List Char) : ((splitColon rest).1 = before ∧ (splitColon rest).2 = some path) ↔
        rest = before ++ ':' :: path ∧ ':' ∉ before := by rw [← ih, Prod.ext_iff]
    by_cases hc : c = ':'
    · subst hc
      cases module with
      | nil => simp [splitColon]
      | cons d module =>
        refine iff_of_false (by simp [splitColon]) ?_
        rintro ⟨heq, hnot⟩
        rw [(List.cons.inj heq).1] at hnot
        exact hnot List.mem_cons_self
    · rw [splitColon_cons_of_ne hc]
      cases module with
      | nil => simp [hc]
      | cons d module =>
        simp only [Prod.mk.injEq, List.cons.injEq, List.cons_append, List.mem_cons, not_or, and_assoc, hrest]
        constructor
        · rintro ⟨rfl, hrest, hnot⟩
          exact ⟨rfl, hrest, Ne.symm hc, hnot⟩
        · rintro ⟨rfl, hrest, -, hnot⟩
          exact ⟨rfl, hrest, hnot⟩

theorem splitPoints_ne_nil (cs : List Char) : splitPoints cs ≠ [] := by
  unfold splitPoints
  split
  · exact List.cons_ne_nil _ _
  · exact List.cons_ne_nil _ _
  · split <;> exact List.cons_ne_nil _ _

theorem splitPoints_cons_of_ne (hc : c ≠ '.') (rest : List Char) :
    ∃ first parts, splitPoints rest = first :: parts ∧ splitPoints (c :: rest) = (c :: first) :: parts := by
  obtain ⟨first, parts, hparts⟩ := List.exists_cons_of_ne_nil (splitPoints_ne_nil rest)
  refine ⟨first, parts, hparts, ?_⟩
  rw [splitPoints, hparts]
  exact hc

theorem splitPoints_eq (cs : List Char) : splitPoints cs = cs.splitOn '.' := by
  induction cs with
  | nil => rfl
  | cons c rest ih =>
    rw [List.splitOn_cons_eq_if_modifyHead, ← ih]
    by_cases hc : c = '.'
    · subst hc
      rfl
    · obtain ⟨first, parts, hrest, hsplit⟩ := splitPoints_cons_of_ne hc rest
      rw [if_neg (by simpa using hc), hsplit, hrest, List.modifyHead_cons]

/-- No point is left in what a text is split into at its points. -/
theorem not_mem_of_mem_splitPoints (h : part ∈ splitPoints cs) : '.' ∉ part := by
  induction cs generalizing part with
  | nil =>
    rw [List.mem_singleton.1 h]
    exact List.not_mem_nil
  | cons c rest ih =>
    by_cases hc : c = '.'
    · subst hc
      rcases List.mem_cons.1 h with rfl | h
      · exact List.not_mem_nil
      · exact ih h
    · obtain ⟨first, parts, hrest, hsplit⟩ := splitPoints_cons_of_ne hc rest
      rw [hrest] at ih
      rw [hsplit] at h
      rcases List.mem_cons.1 h with rfl | h
      · exact List.not_mem_cons_of_ne_of_not_mem (Ne.symm hc) (ih List.mem_cons_self)
      · exact ih (List.mem_cons_of_mem _ h)

end Splitting

/-- **How a reference is written decides how it is split.** -/
theorem names_iff {reference module : String} {names : List String} : Names reference module names ↔
    ∃ path, splitColon reference.toList = (module.toList, some path) ∧ module ≠ "" ∧ path ≠ [] ∧
      names = (splitPoints path).map String.ofList := by
  constructor
  · intro h
    have htext : reference.toList = module.toList ++ ':' :: (".".intercalate names).toList := by
      rw [h.text, String.toList_append, String.toList_append, List.append_assoc]
      rfl
    have hnames : names.map String.toList ≠ [] := by
      intro hnil
      rw [List.map_eq_nil_iff.1 hnil] at h
      exact h.path rfl
    have hsplit : splitPoints (".".intercalate names).toList = names.map String.toList := by
      rw [String.toList_intercalate, splitPoints_eq]
      exact List.splitOn_intercalate '.' (by simpa using h.points) hnames
    refine ⟨_, splitColon_eq_iff.2 ⟨htext, h.first⟩, h.module, ?_, ?_⟩
    · rw [← String.toList_empty]
      exact fun heq => h.path (String.toList_inj.1 heq)
    · rw [hsplit, List.map_map]
      simp [Function.comp_def]
  · rintro ⟨path, hsplit, hmodule, hpath, rfl⟩
    obtain ⟨htext, hfirst⟩ := splitColon_eq_iff.1 hsplit
    have hjoined : (".".intercalate ((splitPoints path).map String.ofList)).toList = path := by
      have hid : String.toList ∘ String.ofList = id := funext fun _ => String.toList_ofList
      rw [String.toList_intercalate, List.map_map, hid, List.map_id, splitPoints_eq]
      exact List.intercalate_splitOn '.'
    refine ⟨?_, hfirst, hmodule, ?_, ?_⟩
    · rw [← String.toList_inj, String.toList_append, String.toList_append, hjoined, htext, List.append_assoc]
      rfl
    · intro hempty
      rw [hempty] at hjoined
      exact hpath hjoined.symm
    · intro name hname
      obtain ⟨part, hpart, rfl⟩ := List.mem_map.1 hname
      rw [String.toList_ofList]
      exact not_mem_of_mem_splitPoints hpart

/-! ## The walk along the names -/

/-- What a name of a thing stands for, wherever that thing was found. -/
def attribute? (catalogue : Catalogue) (place : Option (Member × String)) (member : Member) (name : String) :
    Option Member :=
  let further :=
    if name = "__self__" ∧ member.isOwned then place.map fun (thing, found) => thing.owner found
    else if name = "__class__" then typeOf? catalogue member
    else if name = "__objclass__" then
      if member.kind = .operator then place.bind fun (thing, found) => definer? catalogue thing found
      else if member.kind matches .choice _ then typeOf? catalogue member
      else none
    else none
  let own := (member.own.lookup name).filter fun m => name ≠ "__class__" || !m.own.isEmpty
  (own.orElse fun _ => further).orElse fun _ => member.find? name

theorem follow_cons {m : Type → Type} [Monad m] [MonadExceptOf Failure m] (scope : Scope m) (reference : String)
    (place : Option (Member × String)) (member : Member) (name : String) (rest : List String) :
    follow scope reference place member (name :: rest) = match attribute? scope.catalogue place member name with
      | some next => (tryCatch (settle scope next) fun f =>
          throw (if f.lacksAttribute then lost reference name else f)) >>= fun thing =>
        follow scope reference (some (member, name)) (described scope.catalogue thing) rest
      | none => throw (lost reference name) := rfl

/-- Following names leads from a thing to another one; where each of them was found goes with it. A part of the
application on the way is looked at, which may change the state. -/
inductive Reaches (scope : Scope Act) : Option (Member × String) → Member → List String → World →
    Option (Member × String) → Member → World → Prop
  | here (place : Option (Member × String)) (thing : Member) (w : World) : Reaches scope place thing [] w place thing w
  | onward {place place' : Option (Member × String)} {thing next settled thing' : Member} {name : String}
      {rest : List String} {w u w' : World} (hname : attribute? scope.catalogue place thing name = some next)
      (hsettled : (settle scope next).perform w = (.ok settled, u))
      (hrest : Reaches scope (some (thing, name)) (described scope.catalogue settled) rest u place' thing' w') :
      Reaches scope place thing (name :: rest) w place' thing' w'

/-- A name of a thing is missing: it stands for nothing, or for a part of the application that cannot be made for want
of an attribute. -/
inductive Misses (scope : Scope Act) (place : Option (Member × String)) (thing : Member) (name : String) :
    World → World → Prop
  | nothing {w : World} (hname : attribute? scope.catalogue place thing name = none) : Misses scope place thing name w w
  | unmade {part : Live} {forms : List Member} {w w' : World} {f : Failure}
      (hname : attribute? scope.catalogue place thing name = some (.live part forms))
      (hlook : (scope.look part).perform w = (.error f, w')) (hlacks : f.lacksAttribute = true) :
      Misses scope place thing name w w'

/-- Following names leads to a part of the application that cannot be looked at, and not for want of an attribute. -/
inductive Stuck (scope : Scope Act) : Option (Member × String) → Member → List String → World → Failure → World → Prop
  | look {place place' : Option (Member × String)} {thing thing' : Member} {before after : List String} {name : String}
      {part : Live} {forms : List Member} {w u w' : World} {f : Failure}
      (hbefore : Reaches scope place thing before w place' thing' u)
      (hname : attribute? scope.catalogue place' thing' name = some (.live part forms))
      (hlook : (scope.look part).perform u = (.error f, w')) (hlacks : f.lacksAttribute = false) :
      Stuck scope place thing (before ++ name :: after) w f w'

section Walk

variable {scope : Scope Act} {place place' : Option (Member × String)} {thing thing' : Member} {names : List String}
  {reference name : String} {u w w' : World} {f : Failure}

/-- Only parts of the application are looked at. -/
theorem perform_settle_error_iff {next : Member} : (settle scope next).perform w = (.error f, w') ↔
    ∃ part forms, next = .live part forms ∧ (scope.look part).perform w = (.error f, w') := by
  cases next with
  | live part forms =>
    have hlive : (settle scope (.live part forms)).perform w = (.error f, w') ↔
        (scope.look part).perform w = (.error f, w') := by
      refine perform_bind_error_iff.trans ⟨?_, .inl⟩
      rintro (hlook | ⟨_, _, -, ⟨⟩⟩)
      exact hlook
    rw [hlive]
    constructor
    · exact fun hlook => ⟨part, forms, rfl, hlook⟩
    · rintro ⟨_, _, ⟨⟩, hlook⟩
      exact hlook
  | function | data => exact iff_of_false (fun h => by cases h) (by rintro ⟨_, _, ⟨⟩, -⟩)

/-- A walk that reaches something can be followed from there. -/
theorem Reaches.perform_follow (h : Reaches scope place thing names w place' thing' w') (reference : String)
    (rest : List String) : (follow scope reference place thing (names ++ rest)).perform w =
      (follow scope reference place' thing' rest).perform w' := by
  induction h with
  | here => rfl
  | onward hname hsettled _ ih =>
    rw [List.cons_append, follow_cons, hname]
    exact (perform_bind_ok (perform_recast_ok_iff.2 hsettled) _).trans ih

/-- **What comes of a walk**: it reaches something, it misses a name, or it gets stuck. -/
theorem follow_cases (scope : Scope Act) (place : Option (Member × String)) (thing : Member) (names : List String)
    (w : World) : (∃ place' thing' w', Reaches scope place thing names w place' thing' w') ∨
    (∃ before name after place' thing' u w', names = before ++ name :: after ∧
      Reaches scope place thing before w place' thing' u ∧ Misses scope place' thing' name u w') ∨
    ∃ f w', Stuck scope place thing names w f w' := by
  induction names generalizing place thing w with
  | nil => exact .inl ⟨place, thing, w, .here place thing w⟩
  | cons name rest ih =>
    cases hname : attribute? scope.catalogue place thing name with
    | none => exact .inr (.inl ⟨[], name, rest, place, thing, w, w, rfl, .here place thing w, .nothing hname⟩)
    | some next =>
      rcases hsettled : (settle scope next).perform w with ⟨f | settled, u⟩
      · obtain ⟨part, forms, rfl, hlook⟩ := perform_settle_error_iff.1 hsettled
        cases hlacks : f.lacksAttribute with
        | true =>
          exact .inr (.inl ⟨[], name, rest, place, thing, w, u, rfl, .here place thing w, .unmade hname hlook hlacks⟩)
        | false =>
          have hstuck : Stuck scope place thing ([] ++ name :: rest) w f u :=
            .look (.here place thing w) hname hlook hlacks
          exact .inr (.inr ⟨f, u, hstuck⟩)
      · rcases ih (some (thing, name)) (described scope.catalogue settled) u with
          ⟨place', thing', w', hreaches⟩ | ⟨before, missing, after, place', thing', v, w', rfl, hreaches, hmissing⟩ |
          ⟨f, w', hstuck⟩
        · exact .inl ⟨place', thing', w', .onward hname hsettled hreaches⟩
        · exact .inr (.inl ⟨name :: before, missing, after, place', thing', v, w', rfl,
            .onward hname hsettled hreaches, hmissing⟩)
        · cases hstuck with
          | look hbefore hpart hlook hlacks =>
            rw [← List.cons_append]
            exact .inr (.inr ⟨f, w', .look (.onward hname hsettled hbefore) hpart hlook hlacks⟩)

theorem Reaches.follow_eq (h : Reaches scope place thing names w place' thing' w') (reference : String) :
    (follow scope reference place thing names).perform w = (.ok thing', w') := by
  rw [← List.append_nil names]
  exact h.perform_follow reference []

/-- Looking for a part that cannot be made. -/
theorem follow_unmade {part : Live} {forms : List Member}
    (hname : attribute? scope.catalogue place thing name = some (.live part forms))
    (hlook : (scope.look part).perform w = (.error f, w')) (rest : List String) :
    (follow scope reference place thing (name :: rest)).perform w =
      (.error (if f.lacksAttribute then lost reference name else f), w') := by
  rw [follow_cons, hname]
  exact perform_bind_error (perform_recast_error_iff.2 ⟨f, perform_settle_error_iff.2 ⟨_, _, rfl, hlook⟩, rfl⟩) _

theorem Misses.follow_error (h : Misses scope place thing name w w') (rest : List String) :
    (follow scope reference place thing (name :: rest)).perform w = (.error (lost reference name), w') := by
  cases h with
  | nothing hname =>
    rw [follow_cons, hname]
    rfl
  | unmade hname hlook hlacks => rw [follow_unmade hname hlook, if_pos hlacks]

theorem Stuck.follow_error (h : Stuck scope place thing names w f w') (reference : String) :
    (follow scope reference place thing names).perform w = (.error f, w') := by
  cases h with
  | look hbefore hname hlook hlacks =>
    rw [hbefore.perform_follow, follow_unmade hname hlook, hlacks, if_neg Bool.false_ne_true]

end Walk

/-! ## What comes of a value -/

/-- A reference leads to a module: it is not relative, and the module is there. -/
structure Leads (scope : Scope Act) (reference module : String) (names : List String)
    (members : List (String × Member)) : Prop where
  named : Names reference module names
  absolute : module.toList.head? ≠ some '.'
  found : scope.catalogue.lookup module = some members

/-- What a value resolves to. -/
inductive Gives (scope : Scope Act) : Value → World → Option FieldFunction → World → Prop
  | nothing (w : World) : Gives scope .null w none w
  | itself (f : FieldFunction) (w : World) : Gives scope (.function f) w (some f) w
  /-- A text resolves to what its names lead to from its module on, if that can be called. -/
  | named {reference module : String} {names : List String} {members : List (String × Member)}
      {place : Option (Member × String)} {f : FieldFunction} {kind : Kind} {own : List (String × Member)} {w w' : World}
      (hleads : Leads scope reference module names members)
      (hreaches : Reaches scope none (.data .module members) names w place (.function f kind own) w') :
      Gives scope (.text reference) w (some f) w'

/-- Which error of the field configuration a value is refused with. -/
inductive Rejects (scope : Scope Act) : Value → World → Failure → World → Prop
  | unfit {v : Value} {w : World} (hnull : v ≠ .null) (hfunction : ∀ f, v ≠ .function f) (htext : ∀ s, v ≠ .text s)
      (hlong : v.holdsLong = false) :
      Rejects scope v w (.configuration (.field ("Expected a callable or import reference, got " ++ v.typeName)
        [("value", .text v.shown)])) w
  | malformed {reference : String} {w : World} (h : ∀ module names, ¬ Names reference module names) :
      Rejects scope (.text reference) w (resolveText.malformed reference) w
  | unknown {reference module : String} {names : List String} {w : World} (hnamed : Names reference module names)
      (habsolute : module.toList.head? ≠ some '.') (hmissing : scope.catalogue.lookup module = none) :
      Rejects scope (.text reference) w
        (error reference ("Cannot import module '" ++ module ++ "' for reference '" ++ reference ++ "'")) w
  | missing {reference module name : String} {before after : List String} {members : List (String × Member)}
      {place : Option (Member × String)} {thing : Member} {w u w' : World}
      (hleads : Leads scope reference module (before ++ name :: after) members)
      (hreaches : Reaches scope none (.data .module members) before w place thing u)
      (hmissing : Misses scope place thing name u w') :
      Rejects scope (.text reference) w
        (error reference ("Reference '" ++ reference ++ "' does not resolve: missing attribute '" ++ name ++ "'")) w'
  | uncallable {reference module : String} {names : List String} {members : List (String × Member)}
      {place : Option (Member × String)} {thing : Member} {w w' : World}
      (hleads : Leads scope reference module names members)
      (hreaches : Reaches scope none (.data .module members) names w place thing w')
      (hthing : ∀ f kind own, thing ≠ .function f kind own) :
      Rejects scope (.text reference) w
        (error reference ("Reference '" ++ reference ++ "' does not name a callable")) w'
  /-- Making a part of the application on the way fails with an error of the field configuration. -/
  | unmade {reference module : String} {names : List String} {members : List (String × Member)} {f : Failure}
      {w w' : World} (hleads : Leads scope reference module names members)
      (hstuck : Stuck scope none (.data .module members) names w f w') (hf : f.isFieldError = true) :
      Rejects scope (.text reference) w f w'

/-- What else a value fails with. -/
inductive Strays (scope : Scope Act) : Value → World → Failure → World → Prop
  /-- The error would show the value, and cannot. -/
  | overlong {v : Value} {w : World} (hnull : v ≠ .null) (hfunction : ∀ f, v ≠ .function f) (htext : ∀ s, v ≠ .text s)
      (hlong : v.holdsLong = true) : Strays scope v w .longNumber w
  /-- The module is relative, to none. -/
  | relative {reference module : String} {names : List String} {w : World} (hnamed : Names reference module names)
      (hrelative : module.toList.head? = some '.') :
      Strays scope (.text reference) w (.fault .type
        ("the 'package' argument is required to perform a relative import for " ++ Text.quoted module)) w
  /-- Making a part of the application on the way fails with something else. -/
  | unmade {reference module : String} {names : List String} {members : List (String × Member)} {f : Failure}
      {w w' : World} (hleads : Leads scope reference module names members)
      (hstuck : Stuck scope none (.data .module members) names w f w') (hf : f.isFieldError = false) :
      Strays scope (.text reference) w f w'

section Outcomes

variable {scope : Scope Act} {v : Value} {r : Option FieldFunction} {f : Failure} {w w' : World}
  {reference module : String} {names : List String} {members : List (String × Member)}

theorem perform_resolve_text (scope : Scope Act) (reference : String) (w : World) :
    (resolve scope (.text reference)).perform w = match (resolveText scope reference).perform w with
      | (.ok g, w') => (.ok (some g), w')
      | (.error f, w') => (.error f, w') := by
  refine (perform_bind (resolveText scope reference) (fun g => pure (some g)) w).trans ?_
  rcases (resolveText scope reference).perform w with ⟨_ | _, _⟩ <;> rfl

theorem resolveText_of_not_names (h : ∀ module names, ¬ Names reference module names) :
    resolveText scope reference = throw (resolveText.malformed reference) := by
  unfold resolveText
  rcases hsplit : splitColon reference.toList with ⟨module, _ | path⟩
  · rfl
  · dsimp only
    rw [if_pos]
    simp only [Bool.or_eq_true, List.isEmpty_iff]
    refine Decidable.byContradiction fun hne => ?_
    rw [not_or] at hne
    refine h (String.ofList module) _ (names_iff.2 ⟨path, by rw [hsplit, String.toList_ofList], ?_, hne.2, rfl⟩)
    intro hempty
    rw [← String.toList_inj, String.toList_ofList] at hempty
    exact hne.1 hempty

theorem Names.resolveText_eq (h : Names reference module names) : resolveText scope reference =
    if module.toList.head? = some '.' then
      throw (.fault .type
        ("the 'package' argument is required to perform a relative import for " ++ Text.quoted module))
    else match scope.catalogue.lookup module with
      | none =>
        throw (error reference ("Cannot import module '" ++ module ++ "' for reference '" ++ reference ++ "'"))
      | some members => follow scope reference none (.data .module members) names >>= fun
        | .function f _ _ => pure f
        | _ => throw (error reference ("Reference '" ++ reference ++ "' does not name a callable")) := by
  obtain ⟨path, hsplit, hmodule, hpath, rfl⟩ := names_iff.1 h
  obtain ⟨cs, rfl⟩ : ∃ cs, module = String.ofList cs := ⟨module.toList, String.ofList_toList.symm⟩
  have hgiven : ¬ (cs.isEmpty || path.isEmpty) = true := by simpa [hpath] using hmodule
  rw [String.toList_ofList] at hsplit
  rw [String.toList_ofList]
  unfold resolveText
  rw [hsplit]
  exact if_neg hgiven

theorem Names.resolve_relative (h : Names reference module names) (hrelative : module.toList.head? = some '.') :
    (resolve scope (.text reference)).perform w = (.error (.fault .type
      ("the 'package' argument is required to perform a relative import for " ++ Text.quoted module)), w) := by
  rw [perform_resolve_text, h.resolveText_eq, if_pos hrelative]
  rfl

theorem Names.resolve_unknown (h : Names reference module names) (habsolute : module.toList.head? ≠ some '.')
    (hmissing : scope.catalogue.lookup module = none) : (resolve scope (.text reference)).perform w = (.error
      (error reference ("Cannot import module '" ++ module ++ "' for reference '" ++ reference ++ "'")), w) := by
  rw [perform_resolve_text, h.resolveText_eq, if_neg habsolute, hmissing]
  rfl

/-- Where a reference leads to a module, its names are followed from there. -/
theorem Leads.perform_resolve (h : Leads scope reference module names members) (w : World) :
    (resolve scope (.text reference)).perform w =
      match (follow scope reference none (.data .module members) names).perform w with
      | (.ok (.function f _ _), w') => (.ok (some f), w')
      | (.ok _, w') => (.error (error reference ("Reference '" ++ reference ++ "' does not name a callable")), w')
      | (.error f, w') => (.error f, w') := by
  rw [perform_resolve_text, h.named.resolveText_eq, if_neg h.absolute, h.found]
  dsimp only
  rw [perform_bind]
  rcases (follow scope reference none (.data .module members) names).perform w with ⟨f | thing, w'⟩
  · rfl
  · cases thing <;> rfl

/-- A value that is no function and refers to none. -/
theorem resolve_unfit (hnull : v ≠ .null) (hfunction : ∀ f, v ≠ .function f) (htext : ∀ s, v ≠ .text s) :
    resolve scope v = throw (unfit v) := by
  cases v with
  | null => exact absurd rfl hnull
  | function f => exact absurd rfl (hfunction f)
  | text s => exact absurd rfl (htext s)
  | _ => rfl

theorem Gives.perform_eq (h : Gives scope v w r w') : (resolve scope v).perform w = (.ok r, w') := by
  cases h with
  | nothing | itself => rfl
  | named hleads hreaches => rw [hleads.perform_resolve, hreaches.follow_eq]

theorem Rejects.perform_eq (h : Rejects scope v w f w') :
    (resolve scope v).perform w = (.error f, w') ∧ f.isFieldError = true := by
  cases h with
  | unfit hnull hfunction htext hlong =>
    refine ⟨?_, rfl⟩
    rw [resolve_unfit hnull hfunction htext, Reference.unfit, hlong, if_neg Bool.false_ne_true]
    rfl
  | malformed hnot => exact ⟨by rw [perform_resolve_text, resolveText_of_not_names hnot]; rfl, rfl⟩
  | unknown hnamed habsolute hmissing => exact ⟨hnamed.resolve_unknown habsolute hmissing, rfl⟩
  | missing hleads hreaches hmissing =>
    exact ⟨by rw [hleads.perform_resolve, hreaches.perform_follow, hmissing.follow_error, lost], rfl⟩
  | uncallable hleads hreaches hthing =>
    refine ⟨?_, rfl⟩
    rw [hleads.perform_resolve, hreaches.follow_eq]
    split
    · next heq =>
      cases heq
      exact absurd rfl (hthing _ _ _)
    · next heq => cases heq; rfl
    · next heq => cases heq
  | unmade hleads hstuck hf => exact ⟨by rw [hleads.perform_resolve, hstuck.follow_error], hf⟩

theorem Strays.perform_eq (h : Strays scope v w f w') :
    (resolve scope v).perform w = (.error f, w') ∧ f.isFieldError = false := by
  cases h with
  | overlong hnull hfunction htext hlong =>
    exact ⟨by rw [resolve_unfit hnull hfunction htext, Reference.unfit, if_pos hlong, perform_throw], rfl⟩
  | relative hnamed hrelative => exact ⟨hnamed.resolve_relative hrelative, rfl⟩
  | unmade hleads hstuck hf => exact ⟨by rw [hleads.perform_resolve, hstuck.follow_error], hf⟩

/-- **Each value resolves to something, is rejected or strays.** -/
theorem resolve_cases (scope : Scope Act) (v : Value) (w : World) :
    (∃ r w', Gives scope v w r w') ∨ (∃ f w', Rejects scope v w f w') ∨ ∃ f w', Strays scope v w f w' := by
  have hother {v : Value} (hnull : v ≠ .null) (hfunction : ∀ f, v ≠ .function f) (htext : ∀ s, v ≠ .text s) :
      (∃ r w', Gives scope v w r w') ∨ (∃ f w', Rejects scope v w f w') ∨ ∃ f w', Strays scope v w f w' := by
    cases hlong : v.holdsLong with
    | false => exact .inr (.inl ⟨_, w, .unfit hnull hfunction htext hlong⟩)
    | true => exact .inr (.inr ⟨_, w, .overlong hnull hfunction htext hlong⟩)
  cases v with
  | null => exact .inl ⟨_, _, .nothing w⟩
  | function f => exact .inl ⟨_, _, .itself f w⟩
  | text reference =>
    by_cases hnames : ∃ module names, Names reference module names
    · obtain ⟨module, names, hnamed⟩ := hnames
      by_cases hrelative : module.toList.head? = some '.'
      · exact .inr (.inr ⟨_, _, .relative (w := w) hnamed hrelative⟩)
      cases hfound : scope.catalogue.lookup module with
      | none => exact .inr (.inl ⟨_, _, .unknown (w := w) hnamed hrelative hfound⟩)
      | some members =>
        have hleads : Leads scope reference module names members := ⟨hnamed, hrelative, hfound⟩
        rcases follow_cases scope none (.data .module members) names w with
          ⟨_, thing, _, hreaches⟩ | ⟨_, _, _, _, _, _, _, rfl, hreaches, hmissing⟩ | ⟨f, _, hstuck⟩
        · cases thing with
          | function f kind own => exact .inl ⟨_, _, .named hleads hreaches⟩
          | data | live => exact .inr (.inl ⟨_, _, .uncallable hleads hreaches fun _ _ _ => nofun⟩)
        · exact .inr (.inl ⟨_, _, .missing hleads hreaches hmissing⟩)
        · cases hf : f.isFieldError with
          | true => exact .inr (.inl ⟨_, _, .unmade hleads hstuck hf⟩)
          | false => exact .inr (.inr ⟨_, _, .unmade hleads hstuck hf⟩)
    · simp only [not_exists] at hnames
      exact .inr (.inl ⟨_, _, .malformed (w := w) hnames⟩)
  | _ => exact hother nofun (fun _ => nofun) fun _ => nofun

end Outcomes

end Reference

/-! ## What the application resolves -/

namespace Application

variable {env : Surroundings} {w w' : World}

/-- Where the application looks references up. -/
def scope (env : Surroundings) (w : World) : Reference.Scope Act := ⟨w.catalogue, look env⟩

theorem perform_resolve (env : Surroundings) (v : Value) (w : World) :
    (resolve env v).perform w = (Reference.resolve (scope env w) v).perform w := by
  unfold resolve
  rw [perform_bind_ok (perform_get w)]
  rfl

/-- **What becomes of a value where a function is wanted.**

- It resolves to what it gives: nothing to nothing, a function to itself, a text to what can be called at the end of its
  names, which are followed from its module on.
- The errors of the field configuration that it fails with are the ones that it is rejected with.
- Anything else that it fails with is a relative module, a value that cannot be shown, or comes from making a part of
  the application that is looked at.
- What it resolves to resolves to itself, at any time. -/
theorem resolve_iff (env : Surroundings) (v : Value) (w : World) :
    (∀ r w', (resolve env v).perform w = (.ok r, w') ↔ Reference.Gives (scope env w) v w r w') ∧
    (∀ f w', (resolve env v).perform w = (.error f, w') ∧ f.isFieldError = true ↔
      Reference.Rejects (scope env w) v w f w') ∧
    (∀ f w', (resolve env v).perform w = (.error f, w') ∧ f.isFieldError = false ↔
      Reference.Strays (scope env w) v w f w') ∧
    ∀ r w', (resolve env v).perform w = (.ok r, w') →
      ∀ u, (resolve env (r.elim .null .function)).perform u = (.ok r, u) := by
  rw [perform_resolve]
  have hgives (r : Option FieldFunction) (w' : World) : (Reference.resolve (scope env w) v).perform w = (.ok r, w') ↔
      Reference.Gives (scope env w) v w r w' := by
    refine ⟨fun h => ?_, Reference.Gives.perform_eq⟩
    rcases Reference.resolve_cases (scope env w) v w with ⟨_, _, hg⟩ | ⟨_, _, hr⟩ | ⟨_, _, hs⟩
    · cases h.symm.trans hg.perform_eq
      exact hg
    · cases h.symm.trans hr.perform_eq.1
    · cases h.symm.trans hs.perform_eq.1
  refine ⟨hgives, fun f w' => ?_, fun f w' => ?_, fun r w' h u => ?_⟩
  · refine ⟨fun ⟨h, hf⟩ => ?_, Reference.Rejects.perform_eq⟩
    rcases Reference.resolve_cases (scope env w) v w with ⟨_, _, hg⟩ | ⟨_, _, hr⟩ | ⟨_, _, hs⟩
    · cases h.symm.trans hg.perform_eq
    · cases h.symm.trans hr.perform_eq.1
      exact hr
    · cases h.symm.trans hs.perform_eq.1
      cases hf.symm.trans hs.perform_eq.2
  · refine ⟨fun ⟨h, hf⟩ => ?_, Reference.Strays.perform_eq⟩
    rcases Reference.resolve_cases (scope env w) v w with ⟨_, _, hg⟩ | ⟨_, _, hr⟩ | ⟨_, _, hs⟩
    · cases h.symm.trans hg.perform_eq
    · cases h.symm.trans hr.perform_eq.1
      cases hf.symm.trans hr.perform_eq.2
    · cases h.symm.trans hs.perform_eq.1
      exact hs
  · rw [perform_resolve]
    cases (hgives r w').1 h with
    | nothing => exact (Reference.Gives.nothing u).perform_eq
    | itself f => exact (Reference.Gives.itself f u).perform_eq
    | @named _ _ _ _ _ f => exact (Reference.Gives.itself f u).perform_eq

/-- A function that a module has within something else: the reference to it resolves to it. -/
theorem resolve_iff_nested :
    let hook : FieldFunction := .script (.const (some (.int 200)))
    let hooks : Member := .data .nothing [("status", .ofFunction hook)]
    let w : World := { catalogue := [("app.main", [("hooks", hooks)])] }
    (resolve surroundings (.text "app.main:hooks.status")).perform w = (.ok (some hook), w) ∧
      ∀ u, (resolve surroundings (.function hook)).perform u = (.ok (some hook), u) := by
  intro hook hooks w
  obtain ⟨hgives, -, -, hagain⟩ := resolve_iff surroundings (.text "app.main:hooks.status") w
  have hnamed : Reference.Names "app.main:hooks.status" "app.main" ["hooks", "status"] :=
    ⟨by decide, by decide, by decide, by decide, by decide⟩
  have hreaches : Reference.Reaches (scope surroundings w) none (.data .module [("hooks", hooks)]) ["hooks", "status"] w
      (some (hooks, "status")) (.ofFunction hook) w :=
    .onward rfl rfl (.onward rfl rfl (.here _ _ _))
  have hresolves := (hgives _ _).2 (.named ⟨hnamed, by decide, rfl⟩ hreaches)
  exact ⟨hresolves, hagain _ _ hresolves⟩

/-- A reference to a relative module fails, and not with an error of the field configuration. -/
theorem not_resolve_fails_with_field_error :
    ∃ f, (resolve surroundings (.text ".x:y")).perform {} = (.error f, {}) ∧ f.isFieldError = false :=
  ⟨_, rfl, rfl⟩

end Application

end ActivityLog
