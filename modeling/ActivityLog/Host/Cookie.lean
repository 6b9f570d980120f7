import ActivityLog.OrderedMap
import ActivityLog.Text.Blank

/-!
# Cookies

The cookies of a request: named values between semicolons. A value in quotes may hold a backslash before any character,
or before three octal digits that give one. Main statement: a text without backslashes stands for itself
(`unescape_eq_self`).
-/

namespace ActivityLog.Cookie

/-- The character with three octal digits, of which the first is at most 3. -/
def octal? (a b c : Char) : Option Char :=
  let isDigit (last d : Char) : Bool := '0' ≤ d && d ≤ last
  if isDigit '3' a && isDigit '7' b && isDigit '7' c then
    some (Char.ofNat (((a.toNat - 48) * 8 + (b.toNat - 48)) * 8 + (c.toNat - 48)))
  else none

/-- What quoted characters stand for. A backslash at the end, or before the end of a line, stands for itself. -/
def unescape : List Char → List Char
  | [] => []
  | '\\' :: a :: b :: c :: rest =>
    match octal? a b c with
    | some d => d :: unescape rest
    | none => if a = '\n' then '\\' :: unescape (a :: b :: c :: rest) else a :: unescape (b :: c :: rest)
  | '\\' :: a :: rest => if a = '\n' then '\\' :: unescape (a :: rest) else a :: unescape rest
  | c :: rest => c :: unescape rest

theorem unescape_eq_self {cs : List Char} (h : '\\' ∉ cs) : unescape cs = cs := by
  induction cs with
  | nil => rfl
  | cons c rest ih =>
    have hc : c ≠ '\\' := fun e => h (e ▸ List.mem_cons_self)
    unfold unescape
    split
    · rename_i e
      cases e
    · rename_i e
      exact absurd (List.cons.inj e).1 hc
    · rename_i e
      exact absurd (List.cons.inj e).1 hc
    · rename_i e
      obtain ⟨rfl, rfl⟩ := List.cons.inj e
      rw [ih fun m => h (List.mem_cons_of_mem _ m)]

/-- The value that a written one stands for. -/
def unquote (cs : List Char) : List Char :=
  match cs with
  | '"' :: rest => if rest.getLast? = some '"' then unescape rest.dropLast else cs
  | cs => cs

/-- The name and the value of one cookie, if anything is written. A lone text is a value without a name. -/
def entry? (chunk : List Char) : Option (String × String) :=
  let (name, value) := if chunk.contains '=' then (chunk.takeWhile (· ≠ '='), (chunk.dropWhile (· ≠ '=')).drop 1)
    else ([], chunk)
  let name := Text.trimList name
  let written := Text.trimList value
  if name.isEmpty && written.isEmpty then none else some (String.ofList name, String.ofList (unquote written))

/-- The cookies of a header line, in the order of their first mention. Of equal names the last value counts. -/
def ofLine (line : String) : List (String × String) :=
  (line.splitOn ";").filterMap fun chunk => entry? chunk.toList

/-- The cookies of all lines. -/
def ofLines (lines : List String) : OrderedMap String := OrderedMap.ofList (lines.flatMap ofLine)

end ActivityLog.Cookie
