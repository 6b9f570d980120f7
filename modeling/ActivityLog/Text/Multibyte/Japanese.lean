import ActivityLog.Text.Grid.Jisx0208
import ActivityLog.Text.Grid.Jisx0212
import ActivityLog.Text.Grid.Jisx0213
import ActivityLog.Text.Multibyte

/-!
# Japanese encodings

The character sets of Japanese in pairs of bytes of the upper half (EUC), and in pairs whose second byte may be any
letter (Shift JIS), with their extensions. Main statement: a pair of Shift JIS is a cell of the table
(`shiftedCell?_le`).
-/

namespace ActivityLog.Text.Multibyte

/-! ## Character sets -/

/-- A narrow syllable sign. -/
def narrow? (b : Nat) : Option Char := if 0xA1 ≤ b ∧ b ≤ 0xDF then some (Char.ofNat (0xFEC0 + b)) else none

/-- The editions of JIS X 0213. -/
inductive Edition where
  | of2000
  | of2004
  deriving DecidableEq, Repr

/-- The cells of the first plane that are empty in the first edition. -/
def cellsOf2004 : List (Nat × Nat) :=
  [(14, 1), (15, 94), (47, 52), (47, 94), (84, 7), (94, 90), (94, 91), (94, 92), (94, 93), (94, 94)]

/-- The cells of the first plane that hold two characters. -/
def doubles : List ((Nat × Nat) × List Char) :=
  let voiced (row cell : Nat) (cs : List Char) : List ((Nat × Nat) × List Char) :=
    cs.zipIdx.map fun (c, i) => ((row, cell + i), [c, '\u309a'])
  voiced 4 87 "かきくけこ".toList ++ voiced 5 87 "カキクケコセツト".toList ++ voiced 6 88 ['ㇷ'] ++
    [((11, 36), ['æ', '\u0300']), ((11, 40), ['ɔ', '\u0300']), ((11, 41), ['ɔ', '\u0301']),
      ((11, 42), ['ʌ', '\u0300']), ((11, 43), ['ʌ', '\u0301']), ((11, 44), ['ə', '\u0300']),
      ((11, 45), ['ə', '\u0301']), ((11, 46), ['ɚ', '\u0300']), ((11, 47), ['ɚ', '\u0301']),
      ((11, 69), ['˩', '˥']), ((11, 70), ['˥', '˩'])]

/-- What a cell of the first plane of JIS X 0213 holds. -/
def firstPlane? (edition : Edition) (row cell : Nat) : Option (List Char) :=
  if edition = .of2000 ∧ cellsOf2004.contains (row, cell) then none
  else ((jisx0208.at? row cell).orElse fun _ => jisx0213First.at? row cell).map ([·]) |>.orElse fun _ =>
    doubles.lookup (row, cell)

/-- What a cell of the second plane of JIS X 0213 holds. -/
def secondPlane? (edition : Edition) (row cell : Nat) : Option Char :=
  if edition = .of2000 ∧ row = 93 ∧ cell = 27 then some '鬝' else jisx0213Second.at? row cell

/-- Characters in the place of a pair, if there are any; so many bytes are illegal otherwise. -/
def Taken.ofChars? (bad : Nat) : Option (List Char) → Taken
  | some cs => .points (cs.map .char) 2
  | none => .illegal bad

/-! ## Pairs of bytes of the upper half -/

/-- Reads JIS X 0208 in pairs of bytes, narrow signs after one mark, and JIS X 0212 after another one. -/
def eucJpReader : Reader Unit := .plain fun a rest =>
  if a < 0x80 then .char (Char.ofNat a) 1
  else if a = 0x8E then .pair narrow? rest
  else if a = 0x8F then
    match rest with
    | b :: c :: _ => .ofChar? 3 (jisx0212.at? (b - 0xA0) (c - 0xA0))
    | _ => .unfinished
  else .pair (fun b => jisx0208.at? (a - 0xA0) (b - 0xA0)) rest

/-- How many bytes of a pair are illegal whose cell is empty: both, if a later edition fills the cell. -/
def refusedWidth (edition : Edition) (row cell : Nat) : Nat :=
  if edition = .of2000 ∧ cellsOf2004.contains (row, cell) then 2 else 1

/-- Reads JIS X 0213 in pairs of bytes, narrow signs after one mark, and the second plane after another one. -/
def eucJisReader (edition : Edition) : Reader Unit := .plain fun a rest =>
  if a < 0x80 then .char (Char.ofNat a) 1
  else if a = 0x8E then .pair narrow? rest
  else if a = 0x8F then
    match rest with
    | b :: c :: _ =>
      .ofChar? 3 ((secondPlane? edition (b - 0xA0) (c - 0xA0)).orElse fun _ => jisx0212.at? (b - 0xA0) (c - 0xA0))
    | _ => .unfinished
  else match rest with
    | [] => .unfinished
    | b :: _ =>
      let row := a - 0xA0
      let cell := b - 0xA0
      .ofChars? (refusedWidth edition row cell) (firstPlane? edition row cell)

/-! ## Shift JIS -/

/-- The place of the first byte of a pair. -/
def shiftedLead? (a : Nat) : Option Nat :=
  if 0x81 ≤ a ∧ a ≤ 0x9F then some (a - 0x81) else if 0xE0 ≤ a ∧ a ≤ 0xFC then some (a - 0xC1) else none

/-- The place of the second byte of a pair. -/
def shiftedTrail? (b : Nat) : Option Nat :=
  if 0x40 ≤ b ∧ b ≤ 0x7E then some (b - 0x40) else if 0x80 ≤ b ∧ b ≤ 0xFC then some (b - 0x41) else none

/-- The row and the cell of a pair, the rows of further planes counted on. -/
def shiftedCell? (a b : Nat) : Option (Nat × Nat) :=
  (shiftedLead? a).bind fun lead => (shiftedTrail? b).map fun trail =>
    (2 * lead + trail / 94 + 1, trail % 94 + 1)

/-- A pair is a cell of a row of 94. -/
theorem shiftedCell?_le {a b row cell : Nat} (h : shiftedCell? a b = some (row, cell)) : 1 ≤ cell ∧ cell ≤ 94 := by
  simp only [shiftedCell?, Option.bind_eq_some_iff, Option.map_eq_some_iff, Prod.mk.injEq] at h
  obtain ⟨lead, _, trail, _, _, hc⟩ := h
  omega

/-- Reads Shift JIS: ASCII, narrow signs and pairs of JIS X 0208. -/
def shiftJisReader : Reader Unit := .plain fun a rest =>
  if a < 0x80 then .char (Char.ofNat a) 1
  else match narrow? a with
    | some c => .char c 1
    | none =>
      if (0x81 ≤ a ∧ a ≤ 0x9F) ∨ (0xE0 ≤ a ∧ a ≤ 0xEA) then
        .pair (fun b => (shiftedCell? a b).bind fun (row, cell) => jisx0208.at? row cell) rest
      else .illegal 1

/-- The row of the second plane that a row of Shift JIS beyond the first plane is. -/
def secondRow (row : Nat) : Nat :=
  let n := row - 1
  if 0x67 ≤ n then n - 25 else if 0x63 ≤ n ∨ n = 0x5F then n - 87 else n - 93

/-- What a cell of the first plane holds in Shift JIS, where two cells are those that ASCII has given away. -/
def shiftedFirstPlane? (edition : Edition) (row cell : Nat) : Option (List Char) :=
  if row = 1 ∧ cell = 32 then some ['\\']
  else if row = 2 ∧ cell = 18 then some ['~']
  else firstPlane? edition row cell

/-- Reads Shift JIS with both planes of JIS X 0213, with a yen sign and an overline in ASCII. -/
def shiftJis0213Reader (edition : Edition) : Reader Unit := .plain fun a rest =>
  if a = 0x5C then .char '¥' 1
  else if a = 0x7E then .char '‾' 1
  else if a < 0x80 then .char (Char.ofNat a) 1
  else match narrow? a with
    | some c => .char c 1
    | none =>
      if (0x81 ≤ a ∧ a ≤ 0x9F) ∨ (0xE0 ≤ a ∧ a ≤ 0xFC) then
        match rest with
        | [] => .unfinished
        | b :: _ =>
          match shiftedCell? a b with
          | none => .illegal 1
          | some (row, cell) =>
            if row ≤ 94 then .ofChars? (refusedWidth edition row cell) (shiftedFirstPlane? edition row cell)
            else .ofChar? 2 (secondPlane? edition (secondRow row) cell)
      else .illegal 1

/-- Characters of code page 932 outside of JIS X 0208, or different ones. -/
def cp932Symbols : List Stretch := [
  ⟨0x8160, "～∥"⟩, ⟨0x817C, "－"⟩, ⟨0x8191, "￠￡"⟩, ⟨0x81CA, "￢"⟩, ⟨0x8740, "①②③④⑤⑥⑦⑧⑨⑩⑪⑫⑬⑭⑮⑯⑰⑱⑲⑳ⅠⅡⅢⅣⅤⅥⅦⅧⅨⅩ"⟩,
  ⟨0x875F, "㍉㌔㌢㍍㌘㌧㌃㌶㍑㍗㌍㌦㌣㌫㍊㌻㎜㎝㎞㎎㎏㏄㎡"⟩, ⟨0x877E, "㍻"⟩, ⟨0x8780, "〝〟№㏍℡㊤㊥㊦㊧㊨㈱㈲㈹㍾㍽㍼≒≡∫∮∑√⊥∠∟⊿∵∩∪"⟩,
  ⟨0xED40, "纊褜鍈銈蓜俉炻昱棈鋹曻彅丨仡仼伀伃伹佖侒侊侚侔俍偀倢俿倞偆偰偂傔僴僘兊兤冝冾凬刕劜劦勀勛匀匇匤卲厓厲叝﨎咜咊咩哿喆坙坥垬埈埇﨏"⟩,
  ⟨0xED80, "\ufa10增墲夋奓奛奝奣妤妺孖寀甯寘寬尞岦岺峵崧嵓﨑嵂嵭嶸嶹巐弡弴彧德忞恝悅悊惞惕愠惲愑愷愰憘戓抦揵摠撝擎敎昀昕昻昉昮昞昤晥晗晙\ufa12晳暙暠暲暿曺朎\uf929杦枻桒柀栁桄棏﨓楨﨔榘槢樰橫橆橳" ++
      "橾櫢櫤毖氿汜沆汯泚洄涇浯涖涬淏淸淲淼渹湜渧渼溿澈澵濵瀅瀇瀨炅炫焏焄煜煆煇\ufa15燁燾犱"⟩,
  ⟨0xEE40, "犾猤\ufa16獷玽珉珖珣珒琇珵琦琪琩琮瑢璉璟甁畯皂皜皞皛皦\ufa17睆劯砡硎硤硺礰\ufa18\ufa19\ufa1a禔\ufa1b禛竑竧\ufa1c竫箞\ufa1d絈絜綷綠緖繒罇羡\ufa1e茁" ++
      "荢荿菇菶葈蒴蕓蕙"⟩,
  ⟨0xEE80, "蕫﨟薰\ufa20﨡蠇裵訒訷詹誧誾諟\ufa22諶譓譿賰賴贒赶﨣軏﨤\ufa25遧郞\ufa26鄕鄧釚釗釞釭釮釤釥鈆鈐鈊鈺鉀鈼鉎鉙鉑鈹鉧銧鉷鉸鋧鋗鋙鋐﨧鋕鋠鋓錥錡鋻﨨錞鋿錝錂鍰鍗鎤鏆鏞鏸鐱鑅鑈閒" ++
      "\uf9dc﨩隝隯霳霻靃靍靏靑靕顗顥\ufa2a\ufa2b餧\ufa2c馞驎髙髜魵魲鮏鮱鮻鰀鵰鵫\ufa2d鸙黑"⟩,
  ⟨0xEEEF, "ⅰⅱⅲⅳⅴⅵⅶⅷⅸⅹ￢￤＇＂"⟩, ⟨0xFA40, "ⅰⅱⅲⅳⅴⅵⅶⅷⅸⅹⅠⅡⅢⅣⅤⅥⅦⅧⅨⅩ￢￤＇＂㈱№℡∵纊褜鍈銈蓜俉炻昱棈鋹曻彅丨仡仼伀伃伹佖侒侊侚侔俍偀倢俿倞偆偰偂傔僴僘兊"⟩,
  ⟨0xFA80, "兤冝冾凬刕劜劦勀勛匀匇匤卲厓厲叝﨎咜咊咩哿喆坙坥垬埈埇﨏\ufa10增墲夋奓奛奝奣妤妺孖寀甯寘寬尞岦岺峵崧嵓﨑嵂嵭嶸嶹巐弡弴彧德忞恝悅悊惞惕愠惲愑愷愰憘戓抦揵摠撝擎敎昀昕昻昉昮昞昤晥晗晙\ufa12晳" ++
      "暙暠暲暿曺朎\uf929杦枻桒柀栁桄棏﨓楨﨔榘槢樰橫橆橳橾櫢櫤毖氿汜沆汯泚洄涇浯"⟩,
  ⟨0xFB40, "涖涬淏淸淲淼渹湜渧渼溿澈澵濵瀅瀇瀨炅炫焏焄煜煆煇\ufa15燁燾犱犾猤\ufa16獷玽珉珖珣珒琇珵琦琪琩琮瑢璉璟甁畯皂皜皞皛皦\ufa17睆劯砡硎硤硺礰\ufa18\ufa19"⟩,
  ⟨0xFB80, "\ufa1a禔\ufa1b禛竑竧\ufa1c竫箞\ufa1d絈絜綷綠緖繒罇羡\ufa1e茁荢荿菇菶葈蒴蕓蕙蕫﨟薰\ufa20﨡蠇裵訒訷詹誧誾諟\ufa22諶譓譿賰賴贒赶﨣軏﨤\ufa25遧郞" ++
      "\ufa26鄕鄧釚釗釞釭釮釤釥鈆鈐鈊鈺鉀鈼鉎鉙鉑鈹鉧銧鉷鉸鋧鋗鋙鋐﨧鋕鋠鋓錥錡鋻﨨錞鋿錝錂鍰鍗鎤鏆鏞鏸鐱鑅鑈閒\uf9dc﨩隝隯霳霻靃靍靏靑靕顗顥\ufa2a\ufa2b餧\ufa2c馞驎髙"⟩,
  ⟨0xFC40, "髜魵魲鮏鮱鮻鰀鵰鵫\ufa2d鸙黑"⟩]

/-- The character of a pair in code page 932. -/
def cp932Pair? (a b : Nat) : Option Char :=
  (Stretch.find? cp932Symbols (a * 256 + b)).orElse fun _ =>
    (shiftedCell? a b).bind fun (row, cell) =>
      if 0xF0 ≤ a ∧ a ≤ 0xF9 then some (Char.ofNat (0xE000 + (row - 95) * 94 + (cell - 1)))
      else jisx0208.at? row cell

/-- Reads code page 932. -/
def cp932Reader : Reader Unit := .plain fun a rest =>
  if a ≤ 0x80 then .char (Char.ofNat a) 1
  else if a = 0xA0 then .char '\uf8f0' 1
  else if 0xFD ≤ a then .char (Char.ofNat (0xF8F1 + (a - 0xFD))) 1
  else match narrow? a with
    | some c => .char c 1
    | none => .pair (cp932Pair? a) rest

end ActivityLog.Text.Multibyte
