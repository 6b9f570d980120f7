import ActivityLog.Text.Hex
import ActivityLog.Text.Utf8

/-!
# Form-encoded texts

Named values written between `&`, a name and its value around `=`. Spaces are written as `+`, every character that is
not plain as its bytes, a percent sign and two hexadecimal digits each. `decode` reads any text, `encode` writes the
canonical form. Main statement: plain characters stand for themselves (`encodeList_eq_self`).
-/

namespace ActivityLog.FormEncoded

/-- The text between the marks that cut it. -/
def splitAt (mark : Char) : List Char → List (List Char)
  | [] => [[]]
  | c :: rest =>
    if c = mark then [] :: splitAt mark rest
    else match splitAt mark rest with
      | part :: parts => (c :: part) :: parts
      | [] => [[c]]

/-- The bytes of characters in ASCII, a percent sign and two digits being one byte. -/
def unescapeBytes : List Char → List UInt8
  | '%' :: h :: l :: rest =>
    match Text.hexValue? h, Text.hexValue? l with
    | some high, some low => UInt8.ofNat (high * 16 + low) :: unescapeBytes rest
    | _, _ => UInt8.ofNat 0x25 :: unescapeBytes (h :: l :: rest)
  | c :: rest => UInt8.ofNat c.toNat :: unescapeBytes rest
  | [] => []

/-- Whether a character is one of ASCII. -/
def isAscii (c : Char) : Bool := Nat.blt c.toNat 0x80

/-- A text with its escapes undone, run by run of ASCII: `run` holds the characters of the current one in reverse. What
is no text becomes the replacement character. -/
def unescapeRuns (run : List Char) : List Char → List Char
  | [] => Utf8.decodeLossyList (unescapeBytes run.reverse)
  | c :: rest =>
    if isAscii c then unescapeRuns (c :: run) rest
    else Utf8.decodeLossyList (unescapeBytes run.reverse) ++ c :: unescapeRuns [] rest

/-- A name or value as it is meant. -/
def decodeList (cs : List Char) : String :=
  String.ofList (unescapeRuns [] (cs.map fun c => if c = '+' then ' ' else c))

/-- The name and the value of one part; without `=` the value is empty. -/
def entry (part : List Char) : String × String :=
  (decodeList (part.takeWhile (· ≠ '=')), decodeList ((part.dropWhile (· ≠ '=')).drop 1))

/-- The named values of a text, empty parts left out. -/
def decode (s : String) : List (String × String) :=
  ((splitAt '&' s.toList).filter fun part => !part.isEmpty).map entry

/-- Characters that stand for themselves. -/
def isPlain (c : Char) : Bool := c.isAlphanum || ['_', '.', '-', '~'].contains c

/-- A character as it is written. -/
def encodeChar (c : Char) : List Char :=
  if isPlain c then [c]
  else if c = ' ' then ['+']
  else (String.singleton c).toUTF8.toList.flatMap fun b => '%' :: (Text.hexList 2 b.toNat).map Char.toUpper

/-- Characters as they are written. -/
def encodeList (cs : List Char) : List Char := cs.flatMap encodeChar

/-- Named values as they are written. -/
def encode (entries : List (String × String)) : String :=
  "&".intercalate (entries.map fun (name, value) =>
    String.ofList (encodeList name.toList ++ '=' :: encodeList value.toList))

theorem encodeList_eq_self {cs : List Char} (h : ∀ c ∈ cs, isPlain c = true) : encodeList cs = cs := by
  induction cs with
  | nil => rfl
  | cons c rest ih =>
    have hc : isPlain c = true := h c List.mem_cons_self
    have hr := ih fun x hx => h x (List.mem_cons_of_mem _ hx)
    simp only [encodeList, List.flatMap_cons] at hr ⊢
    simp [encodeChar, hc, hr]

end ActivityLog.FormEncoded
