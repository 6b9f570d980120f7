/-!
# Maps that keep the order of insertion

A map from names to values that remembers the order in which its names came in. Overwriting keeps a name's place,
erasing forgets it. Main statements: `get?_insert`, `get?_erase`, `keys_insert` and `nodup_keys_insert`.
-/

namespace ActivityLog

/-- Entries in the order of insertion. -/
structure OrderedMap (β : Type) where
  entries : List (String × β)
  deriving Repr

namespace OrderedMap

variable {β : Type}

/-- The map without entries. -/
def empty : OrderedMap β := ⟨[]⟩

instance : EmptyCollection (OrderedMap β) := ⟨empty⟩
instance : Inhabited (OrderedMap β) := ⟨empty⟩

/-- The names in order. -/
def keys (m : OrderedMap β) : List String := m.entries.map Prod.fst

/-- The value under a name. -/
def get? (m : OrderedMap β) (name : String) : Option β := m.entries.lookup name

/-- Whether the name has a value. -/
def contains (m : OrderedMap β) (name : String) : Bool := (m.get? name).isSome

/-- Replaces the value of the first entry with this name. -/
def overwrite (name : String) (value : β) : List (String × β) → List (String × β)
  | [] => []
  | e :: rest => if name == e.1 then (e.1, value) :: rest else e :: overwrite name value rest

/-- Gives a name a value: in its place if it has one, at the end otherwise. -/
def insert (m : OrderedMap β) (name : String) (value : β) : OrderedMap β :=
  if m.contains name then ⟨overwrite name value m.entries⟩ else ⟨m.entries ++ [(name, value)]⟩

/-- Takes a name out. -/
def erase (m : OrderedMap β) (name : String) : OrderedMap β :=
  ⟨m.entries.filter fun e => !(name == e.1)⟩

/-- The entries inserted one after the other. -/
def insertAll (m : OrderedMap β) (entries : List (String × β)) : OrderedMap β :=
  entries.foldl (fun m e => m.insert e.1 e.2) m

/-- The map that a list of entries builds; of equal names the last value stays. -/
def ofList (entries : List (String × β)) : OrderedMap β := empty.insertAll entries

/-- The values mapped. -/
def map {γ : Type} (f : β → γ) (m : OrderedMap β) : OrderedMap γ := ⟨m.entries.map fun e => (e.1, f e.2)⟩

/-- No name stands twice. -/
def WellFormed (m : OrderedMap β) : Prop := m.keys.Nodup

@[simp] theorem get?_empty (name : String) : (empty : OrderedMap β).get? name = none := rfl

@[simp] theorem keys_empty : (empty : OrderedMap β).keys = [] := rfl

theorem wellFormed_empty : (empty : OrderedMap β).WellFormed := by simp [WellFormed]

/-! ## Look-up -/

/-- A look-up tries the first entry first. -/
theorem lookup_cons_ite (k name : String) (v : β) (rest : List (String × β)) :
    List.lookup name ((k, v) :: rest) = if name = k then some v else rest.lookup name := by
  by_cases h : name = k
  · simp [h]
  · have hb : (name == k) = false := by simpa using h
    simp [List.lookup_cons, hb, h]

theorem lookup_isSome_iff {entries : List (String × β)} {name : String} :
    (entries.lookup name).isSome = true ↔ name ∈ entries.map Prod.fst := by
  induction entries with
  | nil => simp
  | cons e rest ih =>
    obtain ⟨k, v⟩ := e
    by_cases h : name = k
    · simp [h]
    · rw [lookup_cons_ite, if_neg h, ih]
      simp [h]

theorem contains_iff {m : OrderedMap β} {name : String} : m.contains name = true ↔ name ∈ m.keys :=
  lookup_isSome_iff

theorem get?_eq_none_iff {m : OrderedMap β} {name : String} : m.get? name = none ↔ name ∉ m.keys := by
  rw [← contains_iff, contains]
  cases m.get? name <;> simp

/-! ## Insertion -/

theorem keys_overwrite (name : String) (value : β) (entries : List (String × β)) :
    (overwrite name value entries).map Prod.fst = entries.map Prod.fst := by
  induction entries with
  | nil => rfl
  | cons e rest ih =>
    unfold overwrite
    split
    · rfl
    · simp [ih]

theorem lookup_overwrite (name other : String) (value : β) (entries : List (String × β))
    (h : name ∈ entries.map Prod.fst) :
    (overwrite name value entries).lookup other = if other = name then some value else entries.lookup other := by
  induction entries with
  | nil => simp at h
  | cons e rest ih =>
    obtain ⟨k, v⟩ := e
    unfold overwrite
    by_cases hk : name = k
    · subst hk
      by_cases ho : other = name <;> simp [lookup_cons_ite, ho]
    · have hr : name ∈ rest.map Prod.fst := by simpa [hk] using h
      by_cases ho : other = k
      · subst ho
        simp [hk, Ne.symm hk]
      · simp [lookup_cons_ite, hk, ho, ih hr]

theorem lookup_append_singleton (name other : String) (value : β) (entries : List (String × β))
    (h : name ∉ entries.map Prod.fst) :
    (entries ++ [(name, value)]).lookup other = if other = name then some value else entries.lookup other := by
  induction entries with
  | nil => by_cases ho : other = name <;> simp [lookup_cons_ite, ho]
  | cons e rest ih =>
    obtain ⟨k, v⟩ := e
    simp only [List.map_cons, List.mem_cons, not_or] at h
    by_cases ho : other = k
    · subst ho
      simp [Ne.symm h.1]
    · simp [lookup_cons_ite, ho, ih h.2]

/-- After an insertion the name has the new value, and all others keep theirs. -/
theorem get?_insert (m : OrderedMap β) (name other : String) (value : β) :
    (m.insert name value).get? other = if other = name then some value else m.get? other := by
  unfold insert
  split
  · next h => exact lookup_overwrite _ _ _ _ (contains_iff.1 h)
  · next h => exact lookup_append_singleton _ _ _ _ fun hm => h (contains_iff.2 hm)

/-- A known name keeps its place, a new one goes to the end. -/
theorem keys_insert (m : OrderedMap β) (name : String) (value : β) :
    (m.insert name value).keys = if name ∈ m.keys then m.keys else m.keys ++ [name] := by
  unfold insert
  by_cases h : m.contains name = true
  · rw [if_pos h, if_pos (contains_iff.1 h)]
    exact keys_overwrite _ _ _
  · rw [if_neg h, if_neg fun hm => h (contains_iff.2 hm)]
    simp [keys]

theorem nodup_keys_insert {m : OrderedMap β} (h : m.WellFormed) (name : String) (value : β) :
    (m.insert name value).WellFormed := by
  unfold WellFormed
  rw [keys_insert]
  split
  · exact h
  · next hn =>
    rw [List.nodup_append]
    refine ⟨h, by simp, ?_⟩
    intro a ha b hb
    simp only [List.mem_singleton] at hb
    subst hb
    exact fun hab => hn (hab ▸ ha)

theorem wellFormed_insertAll {m : OrderedMap β} (h : m.WellFormed) (entries : List (String × β)) :
    (m.insertAll entries).WellFormed := by
  unfold insertAll
  induction entries generalizing m with
  | nil => exact h
  | cons e rest ih => exact ih (nodup_keys_insert h _ _)

theorem wellFormed_ofList (entries : List (String × β)) : (ofList entries).WellFormed :=
  wellFormed_insertAll wellFormed_empty entries

/-! ## Erasure -/

/-- After an erasure the name has no value, and all others keep theirs. -/
theorem get?_erase (m : OrderedMap β) (name other : String) :
    (m.erase name).get? other = if other = name then none else m.get? other := by
  obtain ⟨entries⟩ := m
  unfold erase get?
  simp only
  induction entries with
  | nil => simp
  | cons e rest ih =>
    obtain ⟨k, v⟩ := e
    by_cases hk : name = k
    · subst hk
      by_cases ho : other = name
      · subst ho
        simp
      · simpa [lookup_cons_ite, ho] using ih
    · by_cases ho : other = k
      · subst ho
        simp [hk, Ne.symm hk]
      · simpa [lookup_cons_ite, hk, ho] using ih

/-- Erasure takes the name out of the order. -/
theorem keys_erase (m : OrderedMap β) (name : String) :
    (m.erase name).keys = m.keys.filter fun k => !(name == k) := by
  simp only [erase, keys, List.filter_map]
  rfl

theorem nodup_keys_erase {m : OrderedMap β} (h : m.WellFormed) (name : String) : (m.erase name).WellFormed := by
  unfold WellFormed
  rw [keys_erase]
  exact List.Pairwise.filter _ h

end OrderedMap

end ActivityLog
