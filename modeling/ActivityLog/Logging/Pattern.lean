import ActivityLog.Failure
import ActivityLog.Text.Blank
import ActivityLog.Text.Word

/-!
# Line patterns

A pattern is a text with placeholders `{{name}}`, blanks inside the braces allowed. `pieces` cuts a pattern into fixed
characters and placeholders, `apply` puts the values of an event in their places; an absent value shows as `-`.
-/

namespace ActivityLog.Pattern

/-- A part of a pattern. -/
inductive Piece where
  | fixed (c : Char)
  | placeholder (name : String)
  deriving DecidableEq, Repr

/-- Characters of a placeholder's name. -/
def isNameChar (c : Char) : Bool := Text.isWord c || c == '.' || c == '-'

/-- The placeholder at the start of a text, and the text after it. -/
def placeholder? : List Char → Option (List Char × List Char)
  | '\x7b' :: '\x7b' :: rest =>
    let inside := rest.dropWhile Text.isBlank
    let name := inside.takeWhile isNameChar
    match (inside.dropWhile isNameChar).dropWhile Text.isBlank with
    | '\x7d' :: '\x7d' :: after => if name.isEmpty then none else some (name, after)
    | _ => none
  | _ => none

theorem length_dropWhile_le {α : Type} (p : α → Bool) (xs : List α) : (xs.dropWhile p).length ≤ xs.length :=
  (List.dropWhile_suffix p).length_le

/-- A placeholder takes at least one character. -/
theorem length_of_placeholder? {cs name rest : List Char} (h : placeholder? cs = some (name, rest)) :
    rest.length < cs.length := by
  unfold placeholder? at h
  split at h
  · next inner =>
    simp only at h
    split at h
    · next after heq =>
      split at h
      · cases h
      · cases h
        have h1 := length_dropWhile_le Text.isBlank ((inner.dropWhile Text.isBlank).dropWhile isNameChar)
        have h2 := length_dropWhile_le isNameChar (inner.dropWhile Text.isBlank)
        have h3 := length_dropWhile_le Text.isBlank inner
        rw [heq] at h1
        simp only [List.length_cons] at h1 ⊢
        omega
    · cases h
  · cases h

/-- The pieces of a pattern, from left to right. -/
def piecesOf (cs : List Char) : List Piece :=
  match _h : placeholder? cs with
  | some (name, rest) => .placeholder (String.ofList name) :: piecesOf rest
  | none =>
    match cs with
    | [] => []
    | c :: rest => .fixed c :: piecesOf rest
termination_by cs.length
decreasing_by
  · exact length_of_placeholder? _h
  · simp

/-- The pieces of a pattern. -/
def pieces (pattern : String) : List Piece := piecesOf pattern.toList

/-- What a piece shows. -/
def Piece.show (event : Record) : Piece → Except Failure String
  | .fixed c => .ok (String.singleton c)
  | .placeholder name =>
    match event.value name with
    | .null => .ok "-"
    | v => v.written

/-- A pattern filled with the values of an event. -/
def apply (pattern : String) (event : Record) : Except Failure String :=
  ((pieces pattern).mapM (Piece.show event)).map String.join

/-- A pattern given as a value, filled. It has to be a text. -/
def fill (pattern : Value) (event : Record) : Except Failure String :=
  match pattern with
  | .text s => apply s event
  | .bytes _ => .error (.fault .type "cannot use a string pattern on a bytes-like object")
  | v => .error (.fault .type ("expected string or bytes-like object, got '" ++ v.qualifiedTypeName ++ "'"))

end ActivityLog.Pattern
