import ActivityLog.Text.Point

/-!
# Encodings of several bytes for a character

A `Reader` takes what the first bytes of a rest spell, one character or none at a time, and remembers what concerns
later bytes. `Reader.decode` goes through all bytes, or says where the first ones stand that spell nothing. Main
statement: bytes that are read one for one become as many code points (`decodeFrom_single`).
-/

namespace ActivityLog.Text.Multibyte

/-- Why bytes spell nothing. -/
inductive Fault where
  | illegal
  /-- Further bytes are missing. -/
  | unfinished
  /-- A mark before them asks for what the encoding does not have. -/
  | unsupported
  deriving DecidableEq, Repr

/-- What the first bytes of a rest are. -/
inductive Taken where
  /-- They spell code points; none if they only concern later bytes. -/
  | points (ps : List Point) (width : Nat)
  /-- So many bytes spell nothing. -/
  | illegal (width : Nat)
  /-- Bytes are missing. -/
  | unfinished
  /-- What they ask for is not there. -/
  | unsupported
  deriving DecidableEq, Repr

/-- One character of some bytes. -/
def Taken.char (c : Char) (width : Nat) : Taken := .points [.char c] width

/-- A character of some bytes, if there is one. -/
def Taken.ofChar? (width : Nat) : Option Char → Taken
  | some c => .char c width
  | none => .illegal 1

/-- A second byte and the character that it makes with the first one. -/
def Taken.pair (find? : Nat → Option Char) : List Nat → Taken
  | [] => .unfinished
  | b :: _ => .ofChar? 2 (find? b)

/-- How bytes are read: what is known at the start, and what the first byte and the others are, with what is known
after them. -/
structure Reader (σ : Type) where
  start : σ
  take : σ → Nat → List Nat → Taken × σ

/-- A reader that remembers nothing. -/
def Reader.plain (take : Nat → List Nat → Taken) : Reader Unit := ⟨(), fun s b rest => (take b rest, s)⟩

/-- The bytes that spell nothing: where they start, how many they are, and why. -/
structure Error where
  start : Nat
  width : Nat
  fault : Fault
  deriving DecidableEq, Repr

/-- The wording of a fault. -/
def Fault.message : Fault → String
  | .illegal => "illegal multibyte sequence"
  | .unfinished => "incomplete multibyte sequence"
  | .unsupported => "internal codec error"

namespace Reader

variable {σ : Type}

/-- Reads from a position of the input on. -/
def decodeFrom (r : Reader σ) (position : Nat) (state : σ) : List Nat → Except Error (List Point)
  | [] => .ok []
  | b :: rest =>
    match r.take state b rest with
    | (.points ps width, next) => (r.decodeFrom (position + width) next (rest.drop (width - 1))).map (ps ++ ·)
    | (.illegal width, _) => .error ⟨position, width, .illegal⟩
    | (.unfinished, _) => .error ⟨position, rest.length + 1, .unfinished⟩
    | (.unsupported, _) => .error ⟨position, 1, .unsupported⟩
termination_by bytes => bytes.length
decreasing_by simp only [List.length_drop, List.length_cons]; omega

/-- The code points that bytes spell. -/
def decode (r : Reader σ) (bytes : List Nat) : Except Error (List Point) := r.decodeFrom 0 r.start bytes

/-- Bytes that are read one for one become as many code points. -/
theorem decodeFrom_single {r : Reader σ} {state : σ} {bytes : List Nat} {code : Nat → Point}
    (h : ∀ b ∈ bytes, ∀ rest, r.take state b rest = (.points [code b] 1, state)) (position : Nat) :
    r.decodeFrom position state bytes = .ok (bytes.map code) := by
  induction bytes generalizing position with
  | nil => simp [decodeFrom]
  | cons b rest ih =>
    rw [decodeFrom, h b (by simp)]
    simp [ih fun d hd => h d (by simp [hd]), Except.map]

end Reader

end ActivityLog.Text.Multibyte
