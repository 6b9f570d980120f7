import ActivityLog.Text.Multibyte.Chinese
import ActivityLog.Text.Multibyte.Japanese
import ActivityLog.Text.Multibyte.Korean

/-!
# Encodings with escape sequences

In the encodings of the family ISO 2022 escape sequences choose the character set that the bytes after them belong to.
A `Repertoire` says which sets may be chosen and how. Main statement: before any sequence, printable ASCII stands for
itself (`designated_ascii`).
-/

namespace ActivityLog.Text.Multibyte

/-- The sets that may be chosen. -/
inductive CharSet where
  | ascii
  /-- ASCII with a yen sign and an overline. -/
  | roman
  /-- Narrow syllable signs. -/
  | narrow
  | jisx0208
  | jisx0212
  | ksx1001
  | gb2312
  | firstPlane (edition : Edition)
  | secondPlane (edition : Edition)
  | latin1
  | greek
  deriving DecidableEq, Repr

/-- The sets that the sequences of an encoding choose, by whether their characters have two bytes and by the last byte
of the sequence, and what else the encoding knows. -/
structure Repertoire where
  sets : List ((Bool × Char) × CharSet)
  /-- Whether bytes switch between two sets. -/
  shifts : Bool := false
  /-- Whether a sequence takes one character from a third set. -/
  third : Bool := false
  /-- Whether a sequence may have an announcement of a later edition before it. -/
  announced : Bool := true

/-- The sets that are chosen now. -/
structure Chosen where
  zero : CharSet := .ascii
  one : CharSet := .ascii
  two : CharSet := .ascii
  /-- Whether bytes belong to the second set. -/
  shifted : Bool := false
  /-- Whether the bytes of an unknown sequence are passed on. -/
  through : Bool := false

/-- Whether a byte ends an escape sequence. -/
def isFinal (b : Nat) : Bool := Nat.ble 0x40 b && Nat.ble b 0x5A

/-- A character by its byte in the set for Greek, which has the upper half of Latin-1 in part. -/
def greek? (n : Nat) : Option Char :=
  let ofLatin := [0xA0, 0xA3, 0xA6, 0xA7, 0xA8, 0xA9, 0xAB, 0xAC, 0xAD, 0xB0, 0xB1, 0xB2, 0xB3, 0xB7, 0xBB, 0xBD]
  if n < 0xA0 ∨ ofLatin.contains n then some (Char.ofNat n)
  else if n = 0xA1 then some '\u2018'
  else if n = 0xA2 then some '\u2019'
  else if n = 0xAF then some '\u2015'
  else if 0xB4 ≤ n ∧ n ≤ 0xFE ∧ n ≠ 0xD2 then some (Char.ofNat (0x2D0 + n))
  else none

namespace CharSet

/-- What one byte of a set stands for, if its characters have one byte. -/
def single? (set : CharSet) (b : Nat) : Option (Option Char) :=
  match set with
  | .ascii => some (some (Char.ofNat b))
  | .roman => some (some (if b = 0x5C then '¥' else if b = 0x7E then '‾' else Char.ofNat b))
  | .narrow => some (narrow? (b + 0x80))
  | .latin1 | .greek => some none
  | _ => none

/-- What two bytes of a set stand for. -/
def double? (set : CharSet) (a b : Nat) : Option (List Char) :=
  let row := a - 0x20
  let cell := b - 0x20
  match set with
  | .jisx0208 => (Text.jisx0208.at? row cell).map ([·])
  | .jisx0212 => (Text.jisx0212.at? row cell).map ([·])
  | .ksx1001 => (Text.ksx1001.at? row cell).map ([·])
  | .gb2312 => (Text.gb2312.at? row cell).map ([·])
  | .firstPlane edition => firstPlane? edition row cell
  | .secondPlane edition => (secondPlane? edition row cell).map ([·])
  | _ => none

/-- What the first bytes of a rest are in a set. -/
def take (set : CharSet) (a : Nat) (rest : List Nat) : Taken :=
  match set.single? a, rest with
  | some found, _ => .ofChar? 1 found
  | none, [] => .unfinished
  | none, b :: _ => .ofChars? 2 (set.double? a b)

end CharSet

/-- How many bytes an escape sequence has, from a place of it on: none if it has no end, nothing if bytes are
missing. -/
def sequenceLength (announced : Bool) (place : Nat) : List Nat → Option (Option Nat)
  | [] => if 16 ≤ place then some none else none
  | b :: rest =>
    if 16 ≤ place then some none
    else if isFinal b then some (some (place + 1))
    else if announced && b == 0x26 && rest.head? == some 0x40 then
      sequenceLength announced (place + 3) (rest.drop 2)
    else sequenceLength announced (place + 1) rest
termination_by rest => rest.length
decreasing_by all_goals simp only [List.length_drop, List.length_cons]; omega

/-- What a sequence chooses: which of the three sets, and whether of two bytes for a character and by which last
byte. -/
def choice? (r : Repertoire) (bytes : List Nat) : Option (Nat × Bool × Char) :=
  let last (b : Nat) : Char := Char.ofNat b
  match bytes with
  | [0x24, c] => some (0, true, last c)
  | [0x28, c] => some (0, false, last c)
  | [0x29, c] => some (1, false, last c)
  | [0x2E, c] => if r.third then some (2, false, last c) else none
  | [0x24, 0x28, c] => some (0, true, last c)
  | [0x24, 0x29, c] => some (1, true, last c)
  | [_, _, 0x1B, 0x24, 0x42] => if r.announced then some (0, true, 'B') else none
  | _ => none

/-- The sets after a sequence, if there is such a set. -/
def choose? (r : Repertoire) (s : Chosen) (bytes : List Nat) : Option Chosen := do
  let (which, double, last) ← choice? r bytes
  let set ← if !double && last == 'B' then some .ascii else r.sets.lookup (double, last)
  return match which with
    | 0 => { s with zero := set }
    | 1 => { s with one := set }
    | _ => { s with two := set }

/-- What an escape sequence does; `rest` is what follows the escape. -/
def takeSequence (r : Repertoire) (s : Chosen) (rest : List Nat) : Taken × Chosen :=
  match sequenceLength r.announced 1 rest with
  | none => (.unfinished, s)
  | some none => (.illegal 1, s)
  | some (some length) =>
    match choose? r s (rest.take (length - 1)) with
    | some s => (.points [] length, s)
    | none => (.illegal length, s)

/-- One character from the third set. -/
def takeThird (s : Chosen) (b : Nat) : Taken :=
  let char (found : Option Char) : Taken := match found with
    | some c => .char c 3
    | none => .illegal 3
  match s.two with
  | .latin1 => char (if b < 0x80 then some (Char.ofNat (b + 0x80)) else none)
  | .greek => char (greek? (if b < 0x80 then b + 0x80 else b - 0x80))
  | .ascii => char (if b < 0x80 then some (Char.ofNat b) else none)
  | _ => .unsupported

/-- Whether a byte after an escape belongs to a sequence that chooses a set. -/
def isIntroducer (b : Nat) : Bool := [0x28, 0x29, 0x24, 0x2E, 0x26].contains b

/-- What the first bytes of a rest are. -/
def takeDesignated (r : Repertoire) (s : Chosen) (b : Nat) (rest : List Nat) : Taken × Chosen :=
  let own : Taken := .char (Char.ofNat b) 1
  if s.through then (own, { s with through := !isFinal b })
  else if b = 0x1B then
    match rest with
    | [] => (.unfinished, s)
    | c :: more =>
      if isIntroducer c then takeSequence r s rest
      else if r.third && c == 0x4E then
        match more with
        | [] => (.unfinished, s)
        | d :: _ => (takeThird s d, s)
      else (own, { s with through := true })
  else if r.shifts && b == 0x0F then (.points [] 1, { s with shifted := false })
  else if r.shifts && b == 0x0E then (.points [] 1, { s with shifted := true })
  else if b = 0x0A then (own, { s with shifted := false })
  else if b < 0x20 then (own, s)
  else if 0x80 ≤ b then (.illegal 1, s)
  else ((if s.shifted then s.one else s.zero).take b rest, s)

/-- Reads an encoding with escape sequences. -/
def designatedReader (r : Repertoire) : Reader Chosen := ⟨{}, takeDesignated r⟩

/-- The sets of Japanese of two bytes that every encoding of the family knows. -/
def basicSets : List ((Bool × Char) × CharSet) := [((true, 'B'), .jisx0208)]

/-- The sets of the first Japanese encoding of the family. -/
def japaneseSets : List ((Bool × Char) × CharSet) :=
  basicSets ++ [((false, 'J'), .roman), ((true, '@'), .jisx0208)]

/-- The repertoires of the encodings of the family, by their names. -/
def repertoires : List (String × Repertoire) := [
  ("iso2022_kr", { sets := [((true, 'C'), .ksx1001)], shifts := true, announced := false }),
  ("iso2022_jp", { sets := japaneseSets }),
  ("iso2022_jp_1", { sets := japaneseSets ++ [((true, 'D'), .jisx0212)] }),
  ("iso2022_jp_2", {
    sets := japaneseSets ++ [((true, 'D'), .jisx0212), ((true, 'C'), .ksx1001), ((true, 'A'), .gb2312),
      ((false, 'A'), .latin1), ((false, 'F'), .greek)]
    third := true }),
  ("iso2022_jp_2004", {
    sets := basicSets ++ [((true, 'Q'), .firstPlane .of2004), ((true, 'P'), .secondPlane .of2004)] }),
  ("iso2022_jp_3", {
    sets := basicSets ++ [((true, 'O'), .firstPlane .of2000), ((true, 'P'), .secondPlane .of2000)] }),
  ("iso2022_jp_ext", {
    sets := japaneseSets ++ [((true, 'D'), .jisx0212), ((false, 'I'), .narrow)] })]

/-- Before any sequence, printable ASCII stands for itself. -/
theorem designated_ascii (r : Repertoire) {bytes : List Nat} (h : ∀ b ∈ bytes, 0x20 ≤ b ∧ b < 0x80) :
    (designatedReader r).decode bytes = .ok (bytes.map fun b => .char (Char.ofNat b)) :=
  Reader.decodeFrom_single (fun b hb rest => by
    have hr := h b hb
    have h1 : b ≠ 0x1B := by omega
    have h2 : b ≠ 0x0A := by omega
    have h3 : ¬ b < 0x20 := by omega
    have h4 : ¬ 0x80 ≤ b := by omega
    have h5 : b ≠ 0x0F := by omega
    have h6 : b ≠ 0x0E := by omega
    simp [designatedReader, takeDesignated, CharSet.take, CharSet.single?, Taken.ofChar?, Taken.char, h1, h2, h3, h4,
      h5, h6]) 0

end ActivityLog.Text.Multibyte
