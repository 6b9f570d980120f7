import ActivityLog.Proofs.Record
import Mathlib.Data.List.Find
import Mathlib.Data.List.Induction

/-!
# The order of a record

A record takes writes one after the other; an absent value takes a name out. What a history of writes makes of a record
is told from the history alone:

- `last?`: what a name was given last, which is what it holds (`get?_storeAll_last`);
- `leaves`: whether a name is there, which is so just if its last write gave it a value, or it was there before and has
  not been written to (`leaves_iff`);
- `place`: the write that brought a name, the last one if it came more than once, or its place at the beginning. Names
  stand in the order of their places (`pairwise_place_and_lt`).

`storeAll_lastWins` puts these together.
-/

namespace ActivityLog

open OrderedMap

namespace OrderedMap

variable {m : Record} {name : String} {v : Value}

/-- A name with a value keeps its place when it is given another one. -/
theorem keys_store_of_mem (hv : v ≠ .null) (h : name ∈ m.keys) : (m.store name v).keys = m.keys := by
  rw [store, if_neg (by rwa [Value.isNull_iff]), keys_insert, if_pos h]

/-- A new name goes to the end. -/
theorem keys_store_of_not_mem (hv : v ≠ .null) (h : name ∉ m.keys) : (m.store name v).keys = m.keys ++ [name] := by
  rw [store, if_neg (by rwa [Value.isNull_iff]), keys_insert, if_neg h]

/-- A name that is given an absent value leaves the others as they stand. -/
theorem keys_store_null (m : Record) (name : String) :
    (m.store name .null).keys = m.keys.filter fun k => !(name == k) :=
  keys_erase m name

/-- Names in the order of a list without repetitions. -/
theorem pairwise_idxOf {names : List String} (h : names.Nodup) :
    names.Pairwise fun a b => names.idxOf a < names.idxOf b := by
  rw [List.pairwise_iff_getElem]
  intro i j hi hj hij
  rw [h.idxOf_getElem i hi, h.idxOf_getElem j hj]
  exact hij

end OrderedMap

/-- Writes to a record, in the order in which they are made. -/
abbrev Writes := List (String × Value)

namespace Writes

/-- What a name was given last. -/
def last? (writes : Writes) (name : String) : Option Value := writes.reverse.lookup name

/-- Whether a name is there after writes to a record: its last write gave it a value, or it was there before and was not
written to. -/
def leaves (m : Record) (writes : Writes) (name : String) : Bool :=
  match last? writes name with
  | some v => !v.isNull
  | none => m.contains name

/-- Whether the write of that number brings a name which was not there before it. -/
def brings (m : Record) (writes : Writes) (name : String) (i : Nat) : Bool :=
  leaves m (writes.take (i + 1)) name && !leaves m (writes.take i) name

/-- Where a name has its place: at the last write that brought it, writes being counted on from the names of the
beginning, or where it stood among these if none did. -/
def place (m : Record) (writes : Writes) (name : String) : Nat :=
  match (List.range writes.length).reverse.find? (brings m writes name) with
  | some i => m.keys.length + i
  | none => m.keys.idxOf name

variable {m : Record} {writes : Writes} {name : String}

/-! ## What names hold -/

/-- **What a name was given last it holds.** -/
theorem get?_storeAll_last (m : Record) (writes : Writes) (name : String) :
    (storeAll m writes).get? name = (last? writes name).elim (m.get? name) Value.toOption :=
  get?_storeAll_reverse m writes name

theorem leaves_iff : leaves m writes name = true ↔ name ∈ (storeAll m writes).keys := by
  rw [← contains_iff, contains, get?_storeAll_last, leaves]
  cases last? writes name with
  | none => rfl
  | some v => cases v <;> rfl

/-! ## Where names stand -/

/-- Further writes change nothing about what the earlier ones brought. -/
theorem brings_append {i : Nat} (h : i < writes.length) (after : Writes) (name : String) :
    brings m (writes ++ after) name i = brings m writes name i := by
  rw [brings, brings, List.take_append_of_le_length h, List.take_append_of_le_length (Nat.le_of_lt h)]

theorem find?_brings_append (after : Writes) (name : String) :
    (List.range writes.length).reverse.find? (brings m (writes ++ after) name) =
      (List.range writes.length).reverse.find? (brings m writes name) := by
  refine List.find?_congr fun i hi => ?_
  rw [List.mem_reverse, List.mem_range] at hi
  exact brings_append hi after name

/-- One more write brings its name a new place, if it brings it at all. -/
theorem place_append (write : String × Value) (name : String) :
    place m (writes ++ [write]) name =
      if brings m (writes ++ [write]) name writes.length then m.keys.length + writes.length else place m writes name := by
  unfold place
  rw [List.length_append, List.length_singleton, List.range_succ, List.reverse_append, List.reverse_singleton,
    List.singleton_append, List.find?_cons, find?_brings_append]
  cases brings m (writes ++ [write]) name writes.length <;> rfl

theorem brings_last_iff (write : String × Value) (name : String) :
    brings m (writes ++ [write]) name writes.length = true ↔
      name ∈ ((storeAll m writes).store write.1 write.2).keys ∧ name ∉ (storeAll m writes).keys := by
  have hall : (writes ++ [write]).take (writes.length + 1) = writes ++ [write] := List.take_of_length_le (by simp)
  rw [brings, hall, List.take_left, Bool.and_eq_true, Bool.not_eq_true', ← Bool.not_eq_true, leaves_iff, leaves_iff,
    storeAll_append]
  rfl

/-- A name that was there stays in its place. -/
theorem place_append_of_mem (h : name ∈ (storeAll m writes).keys) (write : String × Value) :
    place m (writes ++ [write]) name = place m writes name := by
  rw [place_append, if_neg]
  exact fun hb => ((brings_last_iff write name).1 hb).2 h

/-- A name that was not there has its place at the write that brings it. -/
theorem place_append_of_not_mem {v : Value} (h : name ∉ (storeAll m writes).keys) (hv : v ≠ .null) :
    place m (writes ++ [(name, v)]) name = m.keys.length + writes.length := by
  rw [place_append, if_pos]
  refine (brings_last_iff (name, v) name).2 ⟨?_, h⟩
  rw [keys_store_of_not_mem hv h]
  exact List.mem_append_right _ List.mem_cons_self

theorem wellFormed_storeAll (h : m.WellFormed) (writes : Writes) : (storeAll m writes).WellFormed := by
  unfold storeAll
  induction writes generalizing m with
  | nil => exact h
  | cons write rest ih => exact ih (wellFormed_store h write.1 write.2)

/-- **Names stand in the order of their places**, all of which are before that of the next write. -/
theorem pairwise_place_and_lt (h : m.WellFormed) (writes : Writes) :
    (storeAll m writes).keys.Pairwise (fun a b => place m writes a < place m writes b) ∧
      ∀ name ∈ (storeAll m writes).keys, place m writes name < m.keys.length + writes.length := by
  induction writes using List.reverseRecOn with
  | nil => exact ⟨pairwise_idxOf h, fun name hn => List.idxOf_lt_length_of_mem hn⟩
  | append_singleton writes write ih =>
    obtain ⟨hordered, hbefore⟩ := ih
    obtain ⟨other, v⟩ := write
    let r := storeAll m writes
    -- The places of names that were there are the same, and still before the next write.
    have hkept : ∀ name ∈ r.keys, place m (writes ++ [(other, v)]) name = place m writes name :=
      fun name hn => place_append_of_mem hn _
    have hstays : r.keys.Pairwise fun a b =>
        place m (writes ++ [(other, v)]) a < place m (writes ++ [(other, v)]) b :=
      hordered.imp_of_mem fun ha hb hab => by rwa [hkept _ ha, hkept _ hb]
    have hlt : ∀ name ∈ r.keys, place m (writes ++ [(other, v)]) name < m.keys.length + writes.length := by
      intro name hn
      rw [hkept name hn]
      exact hbefore name hn
    rw [storeAll_append, List.length_append, List.length_singleton]
    show (r.store other v).keys.Pairwise _ ∧ ∀ name ∈ (r.store other v).keys, _
    by_cases hv : v = .null
    · subst hv
      rw [keys_store_null]
      exact ⟨hstays.filter _, fun name hn => Nat.lt_succ_of_lt (hlt name (List.mem_filter.1 hn).1)⟩
    by_cases hthere : other ∈ r.keys
    · rw [keys_store_of_mem hv hthere]
      exact ⟨hstays, fun name hn => Nat.lt_succ_of_lt (hlt name hn)⟩
    · have hnew : place m (writes ++ [(other, v)]) other = m.keys.length + writes.length :=
        place_append_of_not_mem hthere hv
      rw [keys_store_of_not_mem hv hthere]
      refine ⟨List.pairwise_append.2 ⟨hstays, List.pairwise_singleton _ _, fun a ha b hb => ?_⟩, fun name hn => ?_⟩
      · rw [List.mem_singleton.1 hb, hnew]
        exact hlt a ha
      · rcases List.mem_append.1 hn with hn | hn
        · exact Nat.lt_succ_of_lt (hlt name hn)
        · rw [List.mem_singleton.1 hn, hnew]
          exact Nat.lt_succ_self _

/-- The record after one more write. -/
theorem storeAll_append_singleton (m : Record) (writes : Writes) (name : String) (v : Value) :
    storeAll m (writes ++ [(name, v)]) = (storeAll m writes).store name v :=
  storeAll_append m writes [(name, v)]

/-- **The last write of a name counts, and names stand in the order in which they came.** After any writes to a record
of different names

- names are different;
- a name that was written to holds what it was given last, or is gone if that was an absent value, and a name that was
  not holds what it did;
- names stand in the order of the write that last brought them, those that were never gone at the beginning as they
  stood there.

So a name that is there keeps its place when it is given another value, and goes to the end when it is taken out and
given one again. -/
theorem storeAll_lastWins (h : m.WellFormed) (writes : Writes) :
    let r := storeAll m writes
    r.WellFormed ∧
    (∀ name, r.get? name = match last? writes name with
      | some v => v.toOption
      | none => m.get? name) ∧
    (r.keys.Pairwise fun a b => place m writes a < place m writes b) ∧
    (∀ name ∈ r.keys, ∀ v ≠ .null,
      (storeAll m (writes ++ [(name, v)])).keys = r.keys ∧
      (storeAll m (writes ++ [(name, .null), (name, v)])).keys = r.keys.erase name ++ [name]) := by
  intro r
  have hr : r.WellFormed := wellFormed_storeAll h writes
  refine ⟨hr, fun name => ?_, (pairwise_place_and_lt h writes).1, fun name hname v hv => ⟨?_, ?_⟩⟩
  · rw [get?_storeAll_last]
    cases last? writes name <;> rfl
  · rw [storeAll_append_singleton]
    exact keys_store_of_mem hv hname
  · have htwo : writes ++ [(name, .null), (name, v)] = (writes ++ [(name, .null)]) ++ [(name, v)] := by simp
    have herased : (r.store name .null).keys = r.keys.erase name := by
      rw [keys_store_null, hr.erase_eq_filter]
      exact List.filter_congr fun k _ => by rw [bne, Bool.beq_comm]
    have hgone : name ∉ (r.store name .null).keys := by
      rw [herased]
      exact List.Nodup.not_mem_erase hr
    rw [htwo, storeAll_append_singleton, storeAll_append_singleton, keys_store_of_not_mem hv hgone, herased]

/-- A name that is overwritten keeps its place, and one that is taken out and given a value again goes to the end. -/
theorem storeAll_lastWins_moved :
    let m : Record := ⟨[("a", .int 1), ("b", .int 2)]⟩
    let writes : Writes := [("c", .int 3), ("a", .null), ("b", .int 5), ("a", .int 6)]
    m.WellFormed ∧ (storeAll m writes).keys = ["b", "c", "a"] ∧ (storeAll m writes).keys.map (place m writes) = [1, 2, 5] ∧
      (storeAll m writes).get? "a" = some (.int 6) ∧ (storeAll m writes).get? "b" = some (.int 5) := by
  intro m writes
  have hm : m.WellFormed := by
    unfold WellFormed
    decide
  obtain ⟨-, hholds, -, -⟩ := storeAll_lastWins hm writes
  exact ⟨hm, by decide, by decide, hholds "a", hholds "b"⟩

end Writes

end ActivityLog
