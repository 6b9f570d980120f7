/-!
# Tables

Values numbered in the order in which they were added. `get?_set` and `get?_add` say what the operations do.
-/

namespace ActivityLog

/-- Rows, numbered from 0. -/
structure Table (α : Type) where
  rows : List α := []

namespace Table

variable {α : Type}

instance : Inhabited (Table α) := ⟨{}⟩

/-- The number that the next row gets. -/
def next (t : Table α) : Nat := t.rows.length

/-- A row. -/
def get? (t : Table α) (id : Nat) : Option α := t.rows[id]?

/-- A further row. -/
def add (t : Table α) (row : α) : Table α := ⟨t.rows ++ [row]⟩

/-- Replaces a row; an unknown number changes nothing. -/
def set (t : Table α) (id : Nat) (row : α) : Table α := ⟨t.rows.set id row⟩

/-- Changes a row. -/
def modify (t : Table α) (id : Nat) (f : α → α) : Table α := ⟨t.rows.modify id f⟩

theorem get?_set (t : Table α) (id other : Nat) (row : α) :
    (t.set id row).get? other = if other = id then (t.get? id).map fun _ => row else t.get? other := by
  unfold set get?
  by_cases h : other = id
  · subst h
    by_cases hl : other < t.rows.length
    · simp [hl]
    · simp [hl]
  · simp [h, List.getElem?_set_ne (Ne.symm h)]

theorem get?_add (t : Table α) (row : α) (id : Nat) :
    (t.add row).get? id = if id = t.next then some row else t.get? id := by
  unfold add get? next
  by_cases h : id = t.rows.length
  · subst h; simp
  · by_cases hl : id < t.rows.length
    · simp [h, List.getElem?_append_left hl]
    · simp only [h, if_false]
      rw [List.getElem?_eq_none (by simp; omega), List.getElem?_eq_none (by omega)]

end Table

end ActivityLog
