import ActivityLog.Text.Ranges

/-!
# Blank characters

The characters that trimming takes off (Unicode 14 white space and the ASCII separators). `isBlank_of_isWhitespace`:
what core calls white space is blank.
-/

namespace ActivityLog.Text

/-- Blank characters. -/
def blankRanges : CodeRanges :=
  [
   (9, 13), (28, 32), (133, 133), (160, 160), (5760, 5760), (8192, 8202), (8232, 8233),
   (8239, 8239), (8287, 8287), (12288, 12288)
  ]

/-- White space of any script, or one of the ASCII separators 28 to 31. -/
def isBlank (c : Char) : Bool := blankRanges.contains c.toNat

/-- Core's white space is blank. -/
theorem isBlank_of_isWhitespace {c : Char} (h : c.isWhitespace = true) : isBlank c = true := by
  simp only [Char.isWhitespace, Bool.or_eq_true, decide_eq_true_eq] at h
  rcases h with ((rfl | rfl) | rfl) | rfl <;> decide

/-- The characters with the blanks at both ends taken off. -/
def trimList (cs : List Char) : List Char :=
  ((cs.dropWhile isBlank).reverse.dropWhile isBlank).reverse

/-- The text without the blanks at its ends. -/
def trim (s : String) : String := String.ofList (trimList s.toList)

end ActivityLog.Text
