import ActivityLog.Text.Hex
import ActivityLog.Text.Point

/-!
# Texts in JSON

A JSON text in ASCII: double quotes around it, a backslash before a double quote and a backslash, letters for five
controls, and every other code point outside ASCII's printable part by its UTF-16 units. Nothing but printable ASCII is
written.
-/

namespace ActivityLog.Text

/-- The UTF-16 units of a code point by its number. -/
def units16 (n : Nat) : List Nat :=
  if n < 0x10000 then [n] else [0xD800 + (n - 0x10000) / 0x400, 0xDC00 + (n - 0x10000) % 0x400]

/-- A code point by its units. -/
def escapedNumber (n : Nat) : List Char := (units16 n).flatMap fun u => '\\' :: 'u' :: hexList 4 u

/-- One code point of a JSON text. -/
def escapedPoint : Point → List Char
  | .char c =>
    if c = '"' then ['\\', '"']
    else if c = '\\' then ['\\', '\\']
    else if c = '\n' then ['\\', 'n']
    else if c = '\r' then ['\\', 'r']
    else if c = '\t' then ['\\', 't']
    else if c = '\x0c' then ['\\', 'f']
    else if c = '\x08' then ['\\', 'b']
    else if 32 ≤ c.toNat ∧ c.toNat ≤ 126 then [c]
    else escapedNumber c.toNat
  | p => escapedNumber p.number

/-- A JSON text. -/
def escaped (s : String) : String := String.ofList ('"' :: ((pointsOf s).flatMap escapedPoint ++ ['"']))

end ActivityLog.Text
