/-!
# Tables of characters

Character sets of many characters put them into rows of cells, which are counted from one. `Grid.at?` looks a cell up; a
blank stands for an empty cell (`Grid.at?_ne_blank`). `Grid.lacking` counts the characters that a table does not have,
by which some encodings number them. A `Stretch` is a run of characters whose codes follow one another.
-/

namespace ActivityLog.Text

/-- A table of characters in rows. -/
structure Grid where
  rows : Array (Array Char)

namespace Grid

/-- A table from the texts of its rows. -/
def ofRows (rows : List String) : Grid := ⟨(rows.map fun row => row.toList.toArray).toArray⟩

/-- The character in a cell, unless it is empty. -/
def at? (g : Grid) (row cell : Nat) : Option Char :=
  if row = 0 ∨ cell = 0 then none
  else ((g.rows[row - 1]?).bind fun r => r[cell - 1]?).filter (· != ' ')

theorem at?_ne_blank {g : Grid} {row cell : Nat} {c : Char} (h : g.at? row cell = some c) : c ≠ ' ' := by
  unfold at? at h
  split at h
  · cases h
  · simpa using (Option.filter_eq_some_iff.mp h).2

/-- Which of so many numbers from a first one on belong to characters of the table. -/
def taken (g : Grid) (first count : Nat) : Array Bool :=
  g.rows.foldl (fun t row =>
    row.foldl (fun t c => if first ≤ c.toNat then t.setIfInBounds (c.toNat - first) true else t) t)
    (Array.replicate count false)

/-- The characters that the table does not have, of so many from a first one on. -/
def lacking (g : Grid) (first count : Nat) : Array Char :=
  (g.taken first count).zipIdx.filterMap fun (taken, i) => if taken then none else some (Char.ofNat (first + i))

end Grid

/-- A run of characters, and the code of the first one. -/
structure Stretch where
  start : Nat
  text : String

namespace Stretch

/-- The character with a code. -/
def at? (s : Stretch) (code : Nat) : Option Char :=
  if s.start ≤ code then s.text.toList[code - s.start]? else none

/-- The character that one of several runs has with a code. -/
def find? (table : List Stretch) (code : Nat) : Option Char := table.findSome? (·.at? code)

end Stretch

end ActivityLog.Text
