import ActivityLog.Pass

/-!
# Records as maps

What a record holds under each name after a write (`get?_store`), after a list of results (`get?_storeAll`) and with
overrides on top (`get?_insertAll`), and where the names of a list of entries stand (`entries_ofList`,
`keys_isPrefix_insertAll`). A record is `Clean` if no name holds an absent value; writes keep it so
(`Clean.store`), and a look-up in a clean record loses nothing (`Clean.toOption_value`).
-/

namespace ActivityLog

namespace Value

theorem toOption_eq_none_iff {v : Value} : v.toOption = none ↔ v = .null := by
  cases v <;> simp [toOption]

theorem toOption_of_ne {v : Value} (h : v ≠ .null) : v.toOption = some v := by
  cases v <;> simp_all [toOption]

theorem isNull_eq_false_iff {v : Value} : v.isNull = false ↔ v ≠ .null := by
  rw [← Bool.not_eq_true, Value.isNull_iff]

end Value

namespace OrderedMap

variable {m : Record} {name other : String} {v : Value}

/-- After a write the name holds the value, or nothing if the value is an absent one. -/
theorem get?_store (m : Record) (name other : String) (v : Value) :
    (m.store name v).get? other = if other = name then v.toOption else m.get? other := by
  unfold store
  by_cases h : v = .null
  · subst h
    exact get?_erase m name other
  · rw [if_neg (by rwa [Value.isNull_iff]), get?_insert, Value.toOption_of_ne h]

theorem get?_store_of_ne (m : Record) (v : Value) (h : other ≠ name) :
    (m.store name v).get? other = m.get? other := by
  rw [get?_store, if_neg h]

theorem wellFormed_store (h : m.WellFormed) (name : String) (v : Value) : (m.store name v).WellFormed := by
  unfold store
  split
  · exact nodup_keys_erase h name
  · exact nodup_keys_insert h name v

theorem get?_insert_of_ne {β : Type} (m : OrderedMap β) (v : β) (h : other ≠ name) :
    (m.insert name v).get? other = m.get? other := by
  rw [get?_insert, if_neg h]

@[simp] theorem get?_insert_self {β : Type} (m : OrderedMap β) (name : String) (v : β) :
    (m.insert name v).get? name = some v := by
  rw [get?_insert, if_pos rfl]

theorem overwrite_overwrite {β : Type} (name : String) (v u : β) (entries : List (String × β)) :
    overwrite name u (overwrite name v entries) = overwrite name u entries := by
  induction entries with
  | nil => rfl
  | cons e rest ih => by_cases h : (name == e.1) = true <;> simp [overwrite, h, ih]

theorem overwrite_append_singleton {β : Type} {name : String} {entries : List (String × β)}
    (h : name ∉ entries.map Prod.fst) (v u : β) :
    overwrite name u (entries ++ [(name, v)]) = entries ++ [(name, u)] := by
  induction entries with
  | nil => simp [overwrite]
  | cons e rest ih =>
    simp only [List.map_cons, List.mem_cons, not_or] at h
    simp [overwrite, h.1, ih h.2]

/-- Of two insertions under one name the second counts. -/
theorem insert_insert {β : Type} (m : OrderedMap β) (name : String) (v u : β) :
    (m.insert name v).insert name u = m.insert name u := by
  have hc : (m.insert name v).contains name = true := by rw [contains, get?_insert_self]; rfl
  rw [insert, if_pos hc]
  unfold insert
  split
  · simp only [overwrite_overwrite]
  · next h => simp only [overwrite_append_singleton fun hm => h (contains_iff.2 hm)]

/-- What an insertion adds is the entry itself. -/
theorem mem_entries_insert {β : Type} {m : OrderedMap β} {name : String} {v : β} {e : String × β}
    (h : e ∈ (m.insert name v).entries) : e = (name, v) ∨ e ∈ m.entries := by
  have hover : ∀ entries : List (String × β), e ∈ overwrite name v entries → e = (name, v) ∨ e ∈ entries := by
    intro entries he
    induction entries with
    | nil => exact .inr he
    | cons x rest ih =>
      unfold overwrite at he
      split at he
      · next hx =>
        rcases List.mem_cons.1 he with he | he
        · exact .inl (by rw [he, eq_of_beq hx])
        · exact .inr (List.mem_cons_of_mem _ he)
      · rcases List.mem_cons.1 he with he | he
        · exact .inr (he ▸ List.mem_cons_self)
        · exact (ih he).imp_right (List.mem_cons_of_mem _)
  unfold insert at h
  split at h
  · exact hover _ h
  · rcases List.mem_append.1 h with h | h
    · exact .inr h
    · exact .inl (List.mem_singleton.1 h)

/-- Entries put on top of a map: the last one of a name counts. -/
theorem get?_insertAll {β : Type} (entries : List (String × β)) (m : OrderedMap β) (name : String) :
    (m.insertAll entries).get? name = (entries.reverse.lookup name).or (m.get? name) := by
  unfold insertAll
  induction entries generalizing m with
  | nil => simp
  | cons e rest ih =>
    obtain ⟨k, v⟩ := e
    rw [List.foldl_cons, ih, get?_insert, List.reverse_cons, List.lookup_append, Option.or_assoc]
    by_cases h : name = k <;> simp [lookup_cons_ite, h]

theorem lookup_reverse {β : Type} {entries : List (String × β)} (h : (entries.map Prod.fst).Nodup) (name : String) :
    entries.reverse.lookup name = entries.lookup name := by
  induction entries with
  | nil => rfl
  | cons e rest ih =>
    obtain ⟨k, v⟩ := e
    rw [List.map_cons, List.nodup_cons] at h
    rw [List.reverse_cons, List.lookup_append, ih h.2]
    by_cases hk : name = k
    · subst hk
      have hnone : rest.lookup name = none := Option.not_isSome_iff_eq_none.1 fun hs => h.1 (lookup_isSome_iff.1 hs)
      simp [hnone]
    · simp [lookup_cons_ite, hk]

/-- A map put on top of another one goes before it. -/
theorem get?_insertAll_entries {β : Type} {top : OrderedMap β} (h : top.WellFormed) (m : OrderedMap β) (name : String) :
    (m.insertAll top.entries).get? name = (top.get? name).or (m.get? name) := by
  rw [get?_insertAll, lookup_reverse h]
  rfl

theorem get?_of_mem {β : Type} {m : OrderedMap β} (h : m.WellFormed) {e : String × β} (he : e ∈ m.entries) :
    m.get? e.1 = some e.2 := by
  obtain ⟨before, after, hentries⟩ := List.append_of_mem he
  rw [WellFormed, keys, hentries, List.map_append, List.nodup_append] at h
  have hbefore : before.lookup e.1 = none := by
    rw [← Option.not_isSome_iff_eq_none, lookup_isSome_iff]
    exact fun hmem => h.2.2 e.1 hmem e.1 List.mem_cons_self rfl
  rw [get?, hentries, List.lookup_append, hbefore, Option.none_or, lookup_cons_ite, if_pos rfl]

/-- Entries of different names make up a map as they are. -/
theorem entries_ofList {β : Type} {entries : List (String × β)} (h : (entries.map Prod.fst).Nodup) :
    (ofList entries).entries = entries := by
  have hfold : ∀ (rest : List (String × β)) (m : OrderedMap β), (rest.map Prod.fst).Nodup →
      (∀ e ∈ rest, e.1 ∉ m.keys) → (m.insertAll rest).entries = m.entries ++ rest := by
    intro rest
    induction rest with
    | nil => exact fun m _ _ => (List.append_nil _).symm
    | cons e rest ih =>
      intro m hn hm
      rw [List.map_cons, List.nodup_cons] at hn
      have he := hm e List.mem_cons_self
      have hins : (m.insert e.1 e.2).entries = m.entries ++ [e] := by rw [insert, if_neg (mt contains_iff.1 he)]
      have hrest : ∀ x ∈ rest, x.1 ∉ (m.insert e.1 e.2).keys := by
        intro x hx
        rw [keys_insert, if_neg he, List.mem_append, List.mem_singleton, not_or]
        exact ⟨hm x (List.mem_cons_of_mem _ hx), fun heq => hn.1 (heq ▸ List.mem_map_of_mem hx)⟩
      show ((m.insert e.1 e.2).insertAll rest).entries = m.entries ++ e :: rest
      rw [ih _ hn.2 hrest, hins, List.append_assoc]
      rfl
  exact hfold entries empty h fun _ _ hmem => by cases hmem

/-- Further entries come after those that are there. -/
theorem keys_isPrefix_insertAll {β : Type} (entries : List (String × β)) (m : OrderedMap β) :
    m.keys <+: (m.insertAll entries).keys := by
  unfold insertAll
  induction entries generalizing m with
  | nil => exact List.prefix_rfl
  | cons e rest ih =>
    refine List.IsPrefix.trans ?_ (ih (m.insert e.1 e.2))
    rw [keys_insert]
    split
    · exact List.prefix_rfl
    · exact List.prefix_append _ _

theorem mem_keys_ofList {β : Type} {entries : List (String × β)} {name : String} :
    name ∈ (ofList entries).keys ↔ name ∈ entries.map Prod.fst := by
  rw [← contains_iff, contains, ofList, get?_insertAll, get?_empty, Option.or_none, lookup_isSome_iff,
    List.map_reverse, List.mem_reverse]

/-! ## Clean records -/

/-- No name holds an absent value. -/
def Clean (m : Record) : Prop := ∀ name, m.get? name ≠ some .null

/-- A look-up in a clean record loses nothing. -/
theorem Clean.toOption_value (h : Clean m) (name : String) : (m.value name).toOption = m.get? name := by
  unfold value
  cases hv : m.get? name with
  | none => rfl
  | some v => exact Value.toOption_of_ne fun hn => h name (hn ▸ hv)

/-- A field of a clean record is absent just if the name has no entry. -/
theorem Clean.value_eq_null_iff (h : Clean m) : m.value name = .null ↔ m.get? name = none := by
  rw [← h.toOption_value, Value.toOption_eq_none_iff]

theorem Clean.store (h : Clean m) (name : String) (v : Value) : Clean (m.store name v) := by
  intro other he
  rw [get?_store] at he
  split at he
  · cases v <;> simp [Value.toOption] at he
  · exact h other he

theorem Clean.insert (h : Clean m) (name : String) (hv : v ≠ .null) : Clean (m.insert name v) := by
  intro other he
  rw [get?_insert] at he
  split at he
  · exact hv (Option.some.inj he)
  · exact h other he

end OrderedMap

open OrderedMap

/-! ## Results and copies -/

theorem OrderedMap.Clean.storeAll {m : Record} (h : Clean m) (results : List (String × Value)) :
    Clean (storeAll m results) := by
  unfold ActivityLog.storeAll
  induction results generalizing m with
  | nil => exact h
  | cons e rest ih => exact ih (h.store e.1 e.2)

/-- Results written one after the other: the last one of a name counts. -/
theorem get?_storeAll_reverse (m : Record) (results : List (String × Value)) (name : String) :
    (storeAll m results).get? name = (results.reverse.lookup name).elim (m.get? name) Value.toOption := by
  unfold storeAll
  induction results generalizing m with
  | nil => rfl
  | cons e rest ih =>
    obtain ⟨k, v⟩ := e
    rw [List.foldl_cons, ih, get?_store, List.reverse_cons, List.lookup_append]
    cases rest.reverse.lookup name with
    | some u => rfl
    | none => by_cases h : name = k <;> simp [lookup_cons_ite, h]

/-- Results of different names: each name with a result holds it. -/
theorem get?_storeAll {results : List (String × Value)} (h : (results.map Prod.fst).Nodup) (m : Record)
    (name : String) :
    (storeAll m results).get? name = (results.lookup name).elim (m.get? name) Value.toOption := by
  rw [get?_storeAll_reverse, lookup_reverse h]

/-- Results leave all names but their own alone. -/
theorem get?_storeAll_of_not_mem {results : List (String × Value)} {name : String} (h : name ∉ results.map Prod.fst)
    (m : Record) : (storeAll m results).get? name = m.get? name := by
  have hnone : results.reverse.lookup name = none := by
    rwa [← Option.not_isSome_iff_eq_none, lookup_isSome_iff, List.map_reverse, List.mem_reverse]
  rw [get?_storeAll_reverse, hnone]
  rfl

theorem storeAll_append (m : Record) (before after : List (String × Value)) :
    storeAll m (before ++ after) = storeAll (storeAll m before) after :=
  List.foldl_append

theorem OrderedMap.Clean.copyAliases {m : Record} (h : Clean m) (aliases : List (String × String)) :
    Clean (copyAliases m aliases) := by
  unfold ActivityLog.copyAliases
  induction aliases generalizing m with
  | nil => exact h
  | cons e rest ih => exact ih (h.store e.1 _)

theorem copyAliases_append (m : Record) (before after : List (String × String)) :
    copyAliases m (before ++ after) = copyAliases (copyAliases m before) after :=
  List.foldl_append

/-- Copies leave all names but their own alone. -/
theorem get?_copyAliases_of_not_mem {aliases : List (String × String)} {name : String}
    (h : name ∉ aliases.map Prod.fst) (m : Record) : (copyAliases m aliases).get? name = m.get? name := by
  unfold copyAliases
  induction aliases generalizing m with
  | nil => rfl
  | cons e rest ih =>
    simp only [List.map_cons, List.mem_cons, not_or] at h
    rw [List.foldl_cons, ih h.2, get?_store_of_ne _ _ h.1]

/-- Among copies of different names each one takes what its target holds after the copies before it. -/
theorem get?_copyAliases_of_split {before after : List (String × String)} {name target : String} {m : Record}
    (hm : Clean m) (hafter : name ∉ after.map Prod.fst) :
    (copyAliases m (before ++ (name, target) :: after)).get? name = (copyAliases m before).get? target := by
  rw [copyAliases_append, ← List.singleton_append, copyAliases_append, get?_copyAliases_of_not_mem hafter]
  show ((copyAliases m before).store name _).get? name = _
  rw [get?_store, if_pos rfl, (hm.copyAliases before).toOption_value]

/-- A copy of a name that holds a value, and is none of a copy itself, holds that value. -/
theorem get?_copyAliases_of_held {before after : List (String × String)} {name target : String} {m : Record} {v : Value}
    (hbefore : target ∉ before.map Prod.fst) (hafter : name ∉ after.map Prod.fst) (hheld : m.get? target = some v)
    (hv : v ≠ .null) : (copyAliases m (before ++ (name, target) :: after)).get? name = some v := by
  have hturn : (copyAliases m before).value target = v := by
    rw [value, get?_copyAliases_of_not_mem hbefore, hheld]
    rfl
  rw [copyAliases_append, ← List.singleton_append, copyAliases_append, get?_copyAliases_of_not_mem hafter]
  show ((copyAliases m before).store name _).get? name = _
  rw [hturn, get?_store, if_pos rfl, Value.toOption_of_ne hv]

end ActivityLog
