import ActivityLog.Text.Grid.Ksx1001
import ActivityLog.Text.Multibyte

/-!
# Korean encodings

KS X 1001 in pairs of bytes, its extension by all syllables (code page 949), and Johab, where the bits of a pair say
which letters a syllable has. Main statement: `syllable_lt` bounds the number of a syllable.
-/

namespace ActivityLog.Text.Multibyte

/-! ## Letters and syllables -/

/-- The letters that a syllable may start with. -/
def firstLetters : List Char := "ㄱㄲㄴㄷㄸㄹㅁㅂㅃㅅㅆㅇㅈㅉㅊㅋㅌㅍㅎ".toList

/-- The letters that a syllable may end with. -/
def lastLetters : List Char := "ㄱㄲㄳㄴㄵㄶㄷㄹㄺㄻㄼㄽㄾㄿㅀㅁㅂㅄㅅㅆㅇㅈㅊㅋㅌㅍㅎ".toList

/-- The vowel with a place. -/
def vowel (place : Nat) : Char := Char.ofNat (0x314F + place)

/-- The number of a syllable among all by the places of its letters; the last place is zero without a last letter. -/
def syllable (first vowel last : Nat) : Nat := first * 588 + vowel * 28 + last

/-- The number of a syllable is within the range of syllables. -/
theorem syllable_lt {first vowel last : Nat} (hf : first < 19) (hv : vowel < 21) (hl : last < 28) :
    syllable first vowel last < 11172 := by
  unfold syllable
  omega

/-- The character of a syllable. -/
def syllableChar (first vowel last : Nat) : Char := Char.ofNat (0xAC00 + syllable first vowel last)

/-! ## Pairs of KS X 1001 and code page 949 -/

/-- The character of a pair in KS X 1001. -/
def ksx1001Pair? (a b : Nat) : Option Char := ksx1001.at? (a - 0xA0) (b - 0xA0)

/-- The syllables that KS X 1001 does not have. -/
def furtherSyllables : Array Char := ksx1001.lacking 0xAC00 11172

/-- The place of the second byte of a further syllable. -/
def cp949Trail? (b : Nat) : Option Nat :=
  if 0x41 ≤ b ∧ b ≤ 0x5A then some (b - 0x41)
  else if 0x61 ≤ b ∧ b ≤ 0x7A then some (b - 0x47)
  else if 0x81 ≤ b ∧ b ≤ 0xFE then some (b - 0x4D)
  else none

/-- The place of a pair of code page 949 among the syllables that KS X 1001 does not have. -/
def cp949Place? (a b : Nat) : Option Nat := do
  let trail ← cp949Trail? b
  if 0x81 ≤ a ∧ a ≤ 0xA0 then some ((a - 0x81) * 178 + trail)
  else if 0xA1 ≤ a ∧ a ≤ 0xC6 ∧ trail < 84 then some (5696 + (a - 0xA1) * 84 + trail)
  else none

/-- The character of a pair in code page 949. -/
def cp949Pair? (a b : Nat) : Option Char :=
  (ksx1001Pair? a b).orElse fun _ => (cp949Place? a b).bind fun place => furtherSyllables[place]?

/-- Reads code page 949. -/
def cp949Reader : Reader Unit := .plain fun a rest =>
  if a < 0x80 then .char (Char.ofNat a) 1 else .pair (cp949Pair? a) rest

/-! ## Syllables made up of pairs -/

/-- What starts the pairs of letters. -/
def letterRow : Nat := 0xA4

/-- The pair that stands for no letter. -/
def filler : Nat := 0xD4

/-- The letter of a pair by its second byte. -/
def letter? (b : Nat) : Option Char := ksx1001Pair? letterRow b

/-- The syllable that is made up of the three pairs after a filler. -/
def madeUp? (f v l : Nat) : Option Char := do
  let first ← (← letter? f) |> firstLetters.idxOf?
  let vowel ← if 0xBF ≤ v ∧ v ≤ 0xD3 then some (v - 0xBF) else none
  let last ← if l = filler then some 0 else ((← letter? l) |> lastLetters.idxOf?).map (· + 1)
  return syllableChar first vowel last

/-- Reads KS X 1001 in pairs of bytes. A filler starts the four pairs of a syllable. -/
def eucKrReader : Reader Unit := .plain fun a rest =>
  if a < 0x80 then .char (Char.ofNat a) 1
  else if a = letterRow ∧ rest.head? = some filler then
    match rest.drop 1 with
    | x :: f :: y :: v :: z :: l :: _ =>
      if x = letterRow ∧ y = letterRow ∧ z = letterRow then .ofChar? 8 (madeUp? f v l) else .illegal 1
    | _ => .unfinished
  else .pair (ksx1001Pair? a) rest

/-! ## Johab -/

/-- A part of a syllable in Johab. -/
inductive Part where
  | absent
  | letter (place : Nat)
  deriving DecidableEq, Repr

/-- The first letter that five bits stand for. -/
def johabFirst? (n : Nat) : Option Part :=
  if n = 1 then some .absent else if 2 ≤ n ∧ n ≤ 20 then some (.letter (n - 2)) else none

/-- The vowel that five bits stand for. -/
def johabVowel? (n : Nat) : Option Part :=
  if n = 2 then some .absent
  else if 3 ≤ n ∧ n ≤ 7 then some (.letter (n - 3))
  else if 10 ≤ n ∧ n ≤ 15 then some (.letter (n - 5))
  else if 18 ≤ n ∧ n ≤ 23 then some (.letter (n - 7))
  else if 26 ≤ n ∧ n ≤ 29 then some (.letter (n - 9))
  else none

/-- The last letter that five bits stand for. -/
def johabLast? (n : Nat) : Option Part :=
  if n = 1 then some .absent
  else if 2 ≤ n ∧ n ≤ 17 then some (.letter (n - 2))
  else if 19 ≤ n ∧ n ≤ 29 then some (.letter (n - 3))
  else none

/-- The character of a syllable, or of a letter that stands alone. -/
def johabChar? : Part → Part → Part → Option Char
  | .absent, .absent, .absent => some '\u3000'
  | .absent, .absent, .letter l => lastLetters[l]?
  | .absent, .letter v, .absent => some (vowel v)
  | .letter f, .absent, .absent => firstLetters[f]?
  | .letter f, .letter v, .absent => some (syllableChar f v 0)
  | .letter f, .letter v, .letter l => some (syllableChar f v (l + 1))
  | _, _, _ => none

/-- The character of a pair that says by its bits which letters a syllable has. -/
def johabSyllable? (a b : Nat) : Option Char := do
  let first ← johabFirst? (a / 4 % 32)
  let vowel ← johabVowel? ((a * 8 + b / 32) % 32)
  let last ← johabLast? (b % 32)
  johabChar? first vowel last

/-- The character of any other pair: all of KS X 1001 but letters and syllables, in rows twice as long. -/
def johabSymbol? (a b : Nat) : Option Char :=
  if a = 0xD8 ∨ a = 0xDF ∨ 0xF9 < a ∨ b < 0x31 ∨ (0x7F ≤ b ∧ b < 0x91) ∨ b = 0xFF ∨
      (a = 0xDA ∧ 0xA1 ≤ b ∧ b ≤ 0xD3) then none
  else
    let row := if a < 0xE0 then 2 * (a - 0xD9) else 2 * a - 0x197
    let cell := if b < 0x91 then b - 0x31 else b - 0x43
    ksx1001.at? (row + cell / 94 + 1) (cell % 94 + 1)

/-- Reads Johab. -/
def johabReader : Reader Unit := .plain fun a rest =>
  if a < 0x80 then .char (Char.ofNat a) 1
  else .pair (if a < 0xD8 then johabSyllable? a else johabSymbol? a) rest

end ActivityLog.Text.Multibyte
