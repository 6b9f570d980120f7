import ActivityLog.Text.Hex
import ActivityLog.Text.Point
import ActivityLog.Text.Printable

/-!
# Quoted texts and bytes

A quoted text stands between apostrophes, or between double quotes when it holds an apostrophe and no double quote.
The quote in use and the backslash are escaped, tab, line feed and carriage return have letters, and other characters
that are not printable are written by number, as halves of pairs are. `quotedList_plain`: a text of plain characters
only gains two apostrophes.
-/

namespace ActivityLog.Text

/-- The quote that a text is written with. -/
def quoteFor (cs : List Char) : Char :=
  if cs.contains '\'' && !cs.contains '"' then '"' else '\''

/-- The escape by number: two, four or eight hexadecimal digits. -/
def numberEscape (n : Nat) : List Char :=
  if n < 0x100 then '\\' :: 'x' :: hexList 2 n
  else if n < 0x10000 then '\\' :: 'u' :: hexList 4 n
  else '\\' :: 'U' :: hexList 8 n

/-- One character of a quoted text. -/
def quotedChar (quote c : Char) : List Char :=
  if c = quote ∨ c = '\\' then ['\\', c]
  else if c = '\t' then ['\\', 't']
  else if c = '\n' then ['\\', 'n']
  else if c = '\r' then ['\\', 'r']
  else if isPrintable c then [c]
  else numberEscape c.toNat

/-- One code point of a quoted text. -/
def quotedPoint (quote : Char) : Point → List Char
  | .char c => quotedChar quote c
  | p => numberEscape p.number

/-- The characters of a quoted text. -/
def quotedList (ps : List Point) : List Char :=
  let q := quoteFor (ps.filterMap Point.char?)
  q :: (ps.flatMap (quotedPoint q) ++ [q])

/-- A text between quotes. -/
def quoted (s : String) : String := String.ofList (quotedList (pointsOf s))

/-- One byte of quoted bytes: ASCII as in a text, all else by number. -/
def quotedByte (quote : Char) (b : UInt8) : List Char :=
  if b.toNat < 127 then quotedChar quote (Char.ofNat b.toNat) else numberEscape b.toNat

/-- Bytes between quotes, marked by a `b`. -/
def quotedBytes (bytes : List UInt8) : String :=
  let q := quoteFor (bytes.map fun b => Char.ofNat b.toNat)
  String.ofList ('b' :: q :: (bytes.flatMap (quotedByte q) ++ [q]))

/-- Characters that a quoted text shows as they are. -/
def IsPlain (c : Char) : Prop := isPrintable c = true ∧ c ∉ ['\'', '\\', '\t', '\n', '\r']

/-- Plain characters are quoted with apostrophes. -/
theorem quoteFor_plain {cs : List Char} (h : ∀ c ∈ cs, IsPlain c) : quoteFor cs = '\'' := by
  have : cs.contains '\'' = false := by
    rw [Bool.eq_false_iff]
    intro hc
    exact absurd (List.mem_cons_self ..) (h _ (by simpa using hc)).2
  simp only [quoteFor, this, Bool.false_and, Bool.false_eq_true, if_false]

/-- A plain character stands for itself. -/
theorem quotedChar_plain {c : Char} (h : IsPlain c) : quotedChar '\'' c = [c] := by
  obtain ⟨hp, hn⟩ := h
  simp only [List.mem_cons, List.not_mem_nil, or_false, not_or] at hn
  simp [quotedChar, hn, hp]

/-- A text of plain characters only gains the quotes. -/
theorem quotedList_plain {cs : List Char} (h : ∀ c ∈ cs, IsPlain c) :
    quotedList (cs.map .char) = '\'' :: (cs ++ ['\'']) := by
  have hf : (cs.map Point.char).filterMap Point.char? = cs := by
    induction cs with
    | nil => rfl
    | cons c rest ih => simp [Point.char?, ih fun d hd => h d (by simp [hd])]
  have hc : (cs.map Point.char).flatMap (quotedPoint '\'') = cs := by
    clear hf
    induction cs with
    | nil => rfl
    | cons c rest ih =>
      have hrest : ∀ d ∈ rest, IsPlain d := fun d hd => h d (by simp [hd])
      simp [List.flatMap_cons, quotedPoint, quotedChar_plain (h c (by simp)), ih hrest]
  simp [quotedList, hf, quoteFor_plain h, hc]

end ActivityLog.Text
