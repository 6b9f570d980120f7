import ActivityLog.Logging.Pattern
import ActivityLog.Proofs.Record
import Mathlib.Data.List.TakeWhile

/-!
# Patterns are filled in from left to right

A pattern is cut at placeholders: at the leftmost one, then at the leftmost one in what comes after it, and so on
(`Cut`). This says where the cuts are without a scanner; there is one way to do it (`exists_cut`, `Cut.unique`), and
`apply` puts values where the cuts are and leaves everything else as it is: `apply_cut`.

What makes the scanner right is that characters of names are not blank (`not_isNameChar_of_isBlank`), so that a text
begins with one placeholder at most, and `placeholder?` finds it (`placeholder?_eq_some_iff`).
-/

namespace ActivityLog.Pattern

variable {cs before name after rest tail : List Char} {c : Char} {parts : List (List Char × List Char)}

/-! ## Characters of names -/

/-- Blank characters and word characters are different. -/
theorem blankRanges_apart : ∀ r ∈ Text.blankRanges, ∀ q ∈ Text.wordRanges, r.2 < q.1 ∨ q.2 < r.1 := by
  decide +kernel

theorem ascii_apart : ∀ n < 128, Text.blankRanges.contains n = true → isNameChar (Char.ofNat n) = false := by
  decide

theorem not_isNameChar_of_isBlank (h : Text.isBlank c = true) : isNameChar c = false := by
  by_cases hascii : c.toNat < 128
  · rw [← Char.ofNat_toNat c]
    exact ascii_apart c.toNat hascii h
  · have hword : Text.isWord c = false := by
      rw [Text.isWord, if_neg hascii, ← Bool.not_eq_true, Text.CodeRanges.contains_iff]
      rintro ⟨q, hq, hqle, hqge⟩
      obtain ⟨r, hr, hrle, hrge⟩ := Text.CodeRanges.contains_iff.1 h
      have := blankRanges_apart r hr q hq
      omega
    have hdot : c ≠ '.' := by rintro rfl; exact hascii (by decide)
    have hdash : c ≠ '-' := by rintro rfl; exact hascii (by decide)
    simp [isNameChar, hword, hdot, hdash]

/-! ## The placeholder at the start of a text -/

/-- The text is a placeholder with this name: two braces, the name, two braces, and blanks around the name. -/
def IsPlaceholder (text name : List Char) : Prop :=
  ∃ before after, (∀ c ∈ before, Text.isBlank c = true) ∧ (∀ c ∈ after, Text.isBlank c = true) ∧
    name ≠ [] ∧ (∀ c ∈ name, isNameChar c = true) ∧
    text = '\x7b' :: '\x7b' :: (before ++ (name ++ (after ++ ['\x7d', '\x7d'])))

/-- Where characters of a kind are followed by one that is none, they are taken off to the last. -/
theorem takeWhile_of_boundary {α : Type} {p : α → Bool} {front back : List α} (hfront : ∀ a ∈ front, p a = true)
    (hback : ∀ a ∈ back.head?, p a = false) :
    (front ++ back).takeWhile p = front ∧ (front ++ back).dropWhile p = back := by
  rw [List.takeWhile_append_of_pos hfront, List.dropWhile_append_of_pos hfront]
  cases back with
  | nil => simp
  | cons b back => simp [hback b rfl]

/-- A placeholder with this name stands between two parts of a text. -/
def Occurs (cs before name after : List Char) : Prop := ∃ text, IsPlaceholder text name ∧ cs = before ++ (text ++ after)

/-- What the scanner finds is a placeholder that the text begins with. -/
theorem occurs_of_placeholder? (h : placeholder? cs = some (name, rest)) : Occurs cs [] name rest := by
  unfold placeholder? at h
  split at h
  · next inner =>
    dsimp only at h
    split at h
    · next after heq =>
      split at h
      · cases h
      · next hname =>
        cases h
        have hinner := List.takeWhile_append_dropWhile (p := Text.isBlank) (l := inner)
        have hinside := List.takeWhile_append_dropWhile (p := isNameChar) (l := inner.dropWhile Text.isBlank)
        have hafter := List.takeWhile_append_dropWhile (p := Text.isBlank)
          (l := (inner.dropWhile Text.isBlank).dropWhile isNameChar)
        refine ⟨_, ⟨inner.takeWhile Text.isBlank,
          ((inner.dropWhile Text.isBlank).dropWhile isNameChar).takeWhile Text.isBlank,
          fun _ => List.mem_takeWhile_imp, fun _ => List.mem_takeWhile_imp, fun h => hname (by rw [h]; rfl),
          fun _ => List.mem_takeWhile_imp, rfl⟩, ?_⟩
        rw [heq] at hafter
        simp only [List.cons_append, List.append_assoc, List.nil_append]
        rw [hafter, hinside, hinner]
    · cases h
  · cases h

/-- **The scanner finds the placeholder that a text begins with, if there is one.** -/
theorem placeholder?_eq_some_iff : placeholder? cs = some (name, rest) ↔ Occurs cs [] name rest := by
  refine ⟨occurs_of_placeholder?, ?_⟩
  rintro ⟨_, ⟨before, after, hbefore, hafter, hname, hchars, rfl⟩, rfl⟩
  obtain ⟨first, name, rfl⟩ := List.exists_cons_of_ne_nil hname
  -- Where the blanks end the name begins, where the name ends there is a blank or a brace, and a brace is not blank.
  have hinside : ∀ c ∈ (first :: name ++ (after ++ '\x7d' :: '\x7d' :: rest)).head?, Text.isBlank c = false := by
    rintro c ⟨⟩
    cases hblank : Text.isBlank first with
    | false => rfl
    | true =>
      have hfirst := not_isNameChar_of_isBlank hblank
      rw [hchars first List.mem_cons_self] at hfirst
      cases hfirst
  have hend : ∀ c ∈ (after ++ '\x7d' :: '\x7d' :: rest).head?, isNameChar c = false := by
    cases after with
    | nil =>
      rintro c ⟨⟩
      decide
    | cons blank after =>
      rintro c ⟨⟩
      exact not_isNameChar_of_isBlank (hafter blank List.mem_cons_self)
  have hbrace : ∀ c ∈ ('\x7d' :: '\x7d' :: rest).head?, Text.isBlank c = false := by
    rintro c ⟨⟩
    decide
  have hspan := takeWhile_of_boundary hbefore hinside
  have hspan' := takeWhile_of_boundary hchars hend
  have hspan'' := takeWhile_of_boundary hafter hbrace
  simp only [List.cons_append, List.append_assoc, List.nil_append] at hspan hspan' hspan'' ⊢
  simp only [placeholder?]
  rw [hspan.2, hspan'.1, hspan'.2, hspan''.2]
  rfl

theorem Occurs.cons (h : Occurs cs before name after) (c : Char) : Occurs (c :: cs) (c :: before) name after := by
  obtain ⟨text, htext, rfl⟩ := h
  exact ⟨text, htext, rfl⟩

/-- What occurs behind the first character of a text occurs in the rest. -/
theorem Occurs.of_cons {b : Char} (h : Occurs (c :: cs) (b :: before) name after) : Occurs cs before name after := by
  obtain ⟨text, htext, heq⟩ := h
  exact ⟨text, htext, (List.cons.inj heq).2⟩

/-! ## Cuts -/

/-- How a text is cut at placeholders. While there is one, the text before the leftmost one is kept with the name of
that one, and the text after it is cut in the same way. What is left over at the end is the tail. -/
inductive Cut : List Char → List (List Char × List Char) → List Char → Prop
  | last {cs : List Char} (hnone : ∀ before name after, ¬Occurs cs before name after) : Cut cs [] cs
  | next {cs literal name rest tail : List Char} {parts : List (List Char × List Char)}
      (hoccurs : Occurs cs literal name rest)
      (hleftmost : ∀ before name' after, Occurs cs before name' after → literal.length ≤ before.length)
      (hrest : Cut rest parts tail) : Cut cs ((literal, name) :: parts) tail

/-- Where a placeholder occurs the scanner finds it. -/
theorem Occurs.drop (h : Occurs cs before name after) : placeholder? (cs.drop before.length) = some (name, after) := by
  obtain ⟨text, htext, rfl⟩ := h
  rw [List.drop_left]
  exact placeholder?_eq_some_iff.2 ⟨text, htext, rfl⟩

/-- One more character at the front, where no placeholder begins. -/
theorem Cut.cons (h : Cut cs parts tail) (hstart : placeholder? (c :: cs) = none) :
    ∃ parts' tail', Cut (c :: cs) parts' tail' := by
  have hbehind : ∀ before name after, Occurs (c :: cs) before name after →
      ∃ before', before = c :: before' ∧ Occurs cs before' name after := by
    intro before name after hoccurs
    cases before with
    | nil =>
      rw [placeholder?_eq_some_iff.2 hoccurs] at hstart
      cases hstart
    | cons b before =>
      have hb : b = c := by
        obtain ⟨text, -, heq⟩ := hoccurs
        exact (List.cons.inj heq).1.symm
      exact ⟨before, by rw [hb], hoccurs.of_cons⟩
  cases h with
  | last hnone =>
    refine ⟨_, _, .last fun before name after hoccurs => ?_⟩
    obtain ⟨before', -, hinner⟩ := hbehind _ _ _ hoccurs
    exact hnone _ _ _ hinner
  | next hoccurs hleftmost hrest =>
    refine ⟨_, _, .next (hoccurs.cons c) (fun before name' after hoccurs' => ?_) hrest⟩
    obtain ⟨before', rfl, hinner⟩ := hbehind _ _ _ hoccurs'
    exact Nat.succ_le_succ (hleftmost _ _ _ hinner)

/-- **Every text can be cut.** -/
theorem exists_cut (cs : List Char) : ∃ parts tail, Cut cs parts tail := by
  induction cs using piecesOf.induct with
  | case1 cs name rest h ih =>
    obtain ⟨parts, tail, hcut⟩ := ih
    exact ⟨_, _, .next (placeholder?_eq_some_iff.1 h) (fun _ _ _ _ => Nat.zero_le _) hcut⟩
  | case2 h =>
    refine ⟨_, _, .last ?_⟩
    rintro before name after ⟨text, ⟨_, _, -, -, -, -, rfl⟩, heq⟩
    cases before <;> cases heq
  | case3 c rest h ih =>
    obtain ⟨parts, tail, hcut⟩ := ih
    exact hcut.cons h

/-- **There is one way to cut a text.** -/
theorem Cut.unique (h : Cut cs parts tail) {parts' : List (List Char × List Char)} {tail' : List Char}
    (h' : Cut cs parts' tail') : parts' = parts ∧ tail' = tail := by
  induction h generalizing parts' tail' with
  | last hnone =>
    cases h' with
    | last => exact ⟨rfl, rfl⟩
    | next hoccurs => exact absurd hoccurs (hnone _ _ _)
  | @next cs literal name rest tail parts hoccurs hleftmost _ ih =>
    cases h' with
    | last hnone => exact absurd hoccurs (hnone _ _ _)
    | @next _ literal' name' rest' _ parts' hoccurs' hleftmost' hrest' =>
      have hlength := Nat.le_antisymm (hleftmost _ _ _ hoccurs') (hleftmost' _ _ _ hoccurs)
      obtain ⟨text, htext, hcs⟩ := hoccurs
      obtain ⟨text', htext', hcs'⟩ := hoccurs'
      obtain ⟨rfl, hrest⟩ := List.append_inj (hcs.symm.trans hcs') hlength
      -- Both texts begin with a placeholder now, and the scanner finds only one.
      have hfound : placeholder? (text ++ rest) = some (name, rest) :=
        placeholder?_eq_some_iff.2 ⟨text, htext, rfl⟩
      have hfound' : placeholder? (text ++ rest) = some (name', rest') :=
        placeholder?_eq_some_iff.2 ⟨text', htext', hrest⟩
      rw [hfound] at hfound'
      cases hfound'
      obtain ⟨rfl, rfl⟩ := ih hrest'
      exact ⟨rfl, rfl⟩

/-! ## Filling in -/

/-- What stands in the place of a name: the value in plain text, and `-` for one that is absent. -/
def shown (event : Record) (name : String) : Except Failure String :=
  match event.get? name with
  | none => .ok "-"
  | some .null => .ok "-"
  | some v => v.written

/-- A text that has been cut, filled in from left to right. -/
def rendered (event : Record) : List (List Char × List Char) → List Char → Except Failure String
  | [], tail => .ok (String.ofList tail)
  | (literal, name) :: parts, tail => do
    let value ← shown event (String.ofList name)
    let rest ← rendered event parts tail
    return String.ofList literal ++ (value ++ rest)

/-- Pieces filled in and joined. -/
def joined (event : Record) (ps : List Piece) : Except Failure String := (ps.mapM (Piece.show event)).map String.join

variable {event : Record} {ps : List Piece}

theorem show_placeholder (event : Record) (name : String) :
    Piece.show event (.placeholder name) = shown event name := by
  unfold shown Piece.show
  dsimp only
  cases h : event.get? name with
  | none => rw [OrderedMap.value, h]; rfl
  | some v => rw [OrderedMap.value, h]; cases v <;> rfl

theorem joined_cons (event : Record) (p : Piece) (ps : List Piece) :
    joined event (p :: ps) = do
      let text ← p.show event
      let rest ← joined event ps
      return text ++ rest := by
  unfold joined
  rw [List.mapM_cons]
  cases p.show event with
  | error e => rfl
  | ok text =>
    cases ps.mapM (Piece.show event) with
    | error e => rfl
    | ok texts => exact congrArg Except.ok String.join_cons

theorem joined_fixed (event : Record) (literal : List Char) (ps : List Piece) :
    joined event (literal.map .fixed ++ ps) = (joined event ps).map (String.ofList literal ++ ·) := by
  induction literal with
  | nil =>
    cases h : joined event ps with
    | error e => exact h
    | ok text => exact h.trans (congrArg Except.ok String.empty_append.symm)
  | cons c literal ih =>
    rw [List.map_cons, List.cons_append, joined_cons, ih]
    cases joined event ps with
    | error e => rfl
    | ok text =>
      rw [String.ofList_cons]
      exact congrArg Except.ok (String.append_assoc ..).symm

theorem piecesOf_of_placeholder (h : placeholder? cs = some (name, rest)) :
    piecesOf cs = .placeholder (String.ofList name) :: piecesOf rest := by
  rw [piecesOf]
  split
  · next heq =>
    rw [h] at heq
    cases heq
    rfl
  · next heq =>
    rw [h] at heq
    cases heq

theorem piecesOf_of_none (h : placeholder? (c :: cs) = none) : piecesOf (c :: cs) = .fixed c :: piecesOf cs := by
  rw [piecesOf]
  split
  · next heq =>
    rw [h] at heq
    cases heq
  · rfl

/-- Where no placeholder begins the pieces are fixed characters. -/
theorem piecesOf_append (literal cs : List Char)
    (h : ∀ before name after, Occurs (literal ++ cs) before name after → literal.length ≤ before.length) :
    piecesOf (literal ++ cs) = literal.map .fixed ++ piecesOf cs := by
  induction literal with
  | nil => rfl
  | cons c literal ih =>
    have hstart : placeholder? (c :: (literal ++ cs)) = none := by
      cases hfound : placeholder? (c :: (literal ++ cs)) with
      | none => rfl
      | some found => exact absurd (h [] _ _ (placeholder?_eq_some_iff.1 hfound)) (Nat.not_succ_le_zero _)
    have hrest : piecesOf (literal ++ cs) = literal.map .fixed ++ piecesOf cs :=
      ih fun _ _ _ hoccurs => Nat.le_of_succ_le_succ (h _ _ _ (hoccurs.cons c))
    rw [List.cons_append, piecesOf_of_none hstart, hrest]
    rfl

/-- The pieces of a text filled in are the text filled in where it is cut. -/
theorem Cut.joined_eq (h : Cut cs parts tail) (event : Record) :
    joined event (piecesOf cs) = rendered event parts tail := by
  induction h with
  | @last cs hnone =>
    have hpieces : piecesOf (cs ++ []) = cs.map .fixed ++ piecesOf [] :=
      piecesOf_append cs [] fun before name after hoccurs => by
        rw [List.append_nil] at hoccurs
        exact absurd hoccurs (hnone _ _ _)
    rw [List.append_nil] at hpieces
    have hempty : joined event (piecesOf []) = .ok "" := by
      rw [piecesOf]
      rfl
    rw [hpieces, joined_fixed, hempty]
    exact congrArg Except.ok String.append_empty
  | @next cs literal name rest tail parts hoccurs hleftmost _ ih =>
    obtain ⟨text, htext, rfl⟩ := hoccurs
    have hstart : placeholder? (text ++ rest) = some (name, rest) :=
      placeholder?_eq_some_iff.2 ⟨text, htext, rfl⟩
    rw [piecesOf_append literal _ hleftmost, joined_fixed, piecesOf_of_placeholder hstart, joined_cons, ih,
      show_placeholder, rendered]
    cases shown event (String.ofList name) with
    | error e => rfl
    | ok value =>
      cases rendered event parts tail <;> rfl

/-- **A pattern is filled in from left to right, once.** It can be cut in one way. What comes of it is the text between
the cuts as it is, with each placeholder replaced by what its name has in the event, which is not looked at again; only
a value that has no plain text makes it fail, the first one of them. A pattern without placeholders comes out as it
is. -/
theorem apply_cut (pattern : String) :
    (∃ parts tail, Cut pattern.toList parts tail ∧
      ∀ parts' tail', Cut pattern.toList parts' tail' → parts' = parts ∧ tail' = tail) ∧
    (∀ parts tail, Cut pattern.toList parts tail → ∀ event, apply pattern event = rendered event parts tail) ∧
    ((∀ before name after, ¬Occurs pattern.toList before name after) → ∀ event, apply pattern event = .ok pattern) := by
  refine ⟨?_, fun parts tail hcut event => hcut.joined_eq event, fun hnone event => ?_⟩
  · obtain ⟨parts, tail, hcut⟩ := exists_cut pattern.toList
    exact ⟨parts, tail, hcut, fun _ _ => hcut.unique⟩
  · have hplain := (Cut.last hnone).joined_eq event
    rwa [rendered, String.ofList_toList] at hplain

/-- A placeholder with a brace before it, and a name that is none. -/
def bracedPattern : String := "\x7b\x7b\x7blevel \x7d\x7d \x7b\x7ba b\x7d\x7d"

/-- The pattern filled in: neither the brace nor the other name matters, and the value that looks like a placeholder
stays as it is. -/
theorem apply_cut_braced :
    Cut bracedPattern.toList [(['\x7b'], "level".toList)] " \x7b\x7ba b\x7d\x7d".toList ∧
    apply bracedPattern ⟨[("level", .text "\x7b\x7bevent\x7d\x7d")]⟩ =
      .ok "\x7b\x7b\x7bevent\x7d\x7d \x7b\x7ba b\x7d\x7d" := by
  have hfirst : placeholder? (bracedPattern.toList.drop 0) = none := by decide
  have hlater : ∀ n < 8, placeholder? (" \x7b\x7ba b\x7d\x7d".toList.drop n) = none := by decide
  have hcut : Cut bracedPattern.toList [(['\x7b'], "level".toList)] " \x7b\x7ba b\x7d\x7d".toList := by
    have hblank : ∀ c ∈ [' '], Text.isBlank c = true := List.all_eq_true.1 (by decide)
    have hname : ∀ c ∈ "level".toList, isNameChar c = true := List.all_eq_true.1 (by decide)
    refine .next ⟨"\x7b\x7blevel \x7d\x7d".toList, ⟨[], [' '], nofun, hblank, by decide, hname, by decide⟩,
      by decide⟩ (fun before name after hoccurs => ?_) (.last fun before name after hoccurs => ?_)
    · by_contra hlt
      have hempty : before.length = 0 := Nat.lt_one_iff.1 (Nat.not_le.1 hlt)
      have hfound := hoccurs.drop
      rw [hempty, hfirst] at hfound
      cases hfound
    · have hfound := hoccurs.drop
      by_cases hlt : before.length < 8
      · rw [hlater _ hlt] at hfound
        cases hfound
      · rw [List.drop_eq_nil_of_le (Nat.not_lt.1 hlt)] at hfound
        cases hfound
  refine ⟨hcut, ?_⟩
  rw [(apply_cut bracedPattern).2.1 _ _ hcut]
  rfl

end ActivityLog.Pattern
