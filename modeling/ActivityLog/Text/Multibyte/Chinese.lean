import ActivityLog.Text.Grid.Big5
import ActivityLog.Text.Grid.Gb2312
import ActivityLog.Text.Grid.Hkscs
import ActivityLog.Text.Multibyte

/-!
# Chinese encodings

Encodings of simplified Chinese: GB 2312 in pairs of bytes, its extensions GBK and GB 18030, and HZ, which marks the
pairs in plain ASCII. Encodings of traditional Chinese: Big5 and its extensions. Main statement: outside of marks ASCII
stands for itself (`gbk_ascii`, `hz_ascii`).
-/

namespace ActivityLog.Text.Multibyte

/-! ## GB 2312 and its extensions -/

/-- The character of a pair in GB 2312. -/
def gb2312Pair? (a b : Nat) : Option Char := gb2312.at? (a - 0xA0) (b - 0xA0)

/-- Symbols of GBK outside of GB 2312, or different ones. -/
def gbkSymbols : List Stretch := [
  ⟨0xA1A4, "·"⟩, ⟨0xA1AA, "—"⟩, ⟨0xA2A1, "ⅰⅱⅲⅳⅴⅵⅶⅷⅸⅹ"⟩, ⟨0xA6E0, "︵︶︹︺︿﹀︽︾﹁﹂﹃﹄"⟩, ⟨0xA6EE, "︻︼︷︸︱"⟩,
  ⟨0xA6F4, "︳︴"⟩, ⟨0xA840, "ˊˋ˙–―‥‵℅℉↖↗↘↙∕∟∣≒≦≧⊿═║╒╓╔╕╖╗╘╙╚╛╜╝╞╟╠╡╢╣╤╥╦╧╨╩╪╫╬╭╮╯╰╱╲╳▁▂▃▄▅▆▇"⟩,
  ⟨0xA880, "█▉▊▋▌▍▎▏▓▔▕▼▽◢◣◤◥☉⊕〒〝〞"⟩, ⟨0xA8BB, "ɑ"⟩, ⟨0xA8BD, "ńň"⟩, ⟨0xA8C0, "ɡ"⟩,
  ⟨0xA940, "〡〢〣〤〥〦〧〨〩㊣㎎㎏㎜㎝㎞㎡㏄㏎㏑㏒㏕︰￢￤"⟩, ⟨0xA959, "℡㈱"⟩, ⟨0xA95C, "‐"⟩, ⟨0xA960, "ー゛゜ヽヾ〆ゝゞ﹉﹊﹋﹌﹍﹎﹏﹐﹑﹒﹔﹕﹖﹗﹙﹚﹛﹜﹝﹞﹟﹠﹡"⟩,
  ⟨0xA980, "﹢﹣﹤﹥﹦﹨﹩﹪﹫"⟩, ⟨0xA996, "〇"⟩, ⟨0xFD9C, "\uf92c\uf979\uf995\uf9e7\uf9f1"⟩,
  ⟨0xFE40, "\ufa0c\ufa0d﨎﨏﨑﨓﨔\ufa18﨟\ufa20﨡﨣﨤﨧﨨﨩"⟩]

/-- The place of a second byte among those that there may be. -/
def gbkTrail? (b : Nat) : Option Nat :=
  if 0x40 ≤ b ∧ b ≤ 0x7E then some (b - 0x40)
  else if 0x80 ≤ b ∧ b ≤ 0xFE then some (b - 0x41)
  else none

/-- The ideographs that GB 2312 does not have. -/
def furtherIdeographs : Array Char := gb2312.lacking 0x4E00 20902

/-- The place of a pair of GBK among the ideographs that GB 2312 does not have. -/
def gbkPlace? (a b : Nat) : Option Nat := do
  let trail ← gbkTrail? b
  if 0x81 ≤ a ∧ a ≤ 0xA0 then some ((a - 0x81) * 190 + trail)
  else if 0xAA ≤ a ∧ a ≤ 0xFE ∧ trail < 96 then some (6080 + (a - 0xAA) * 96 + trail)
  else none

/-- The character of a pair in GBK. -/
def gbkPair? (a b : Nat) : Option Char :=
  (Stretch.find? gbkSymbols (a * 256 + b)).orElse fun _ => (gb2312Pair? a b).orElse fun _ =>
    (gbkPlace? a b).bind fun place => furtherIdeographs[place]?

/-- Symbols of GB 18030 outside of GBK. -/
def gb18030Symbols : List Stretch := [
  ⟨0xA2AB, "\ue766\ue767\ue768\ue769\ue76a\ue76b"⟩, ⟨0xA2E3, "€\ue76d"⟩, ⟨0xA2EF, "\ue76e\ue76f"⟩,
  ⟨0xA2FD, "\ue770\ue771"⟩, ⟨0xA4F4, "\ue772\ue773\ue774\ue775\ue776\ue777\ue778\ue779\ue77a\ue77b\ue77c"⟩,
  ⟨0xA5F7, "\ue77d\ue77e\ue77f\ue780\ue781\ue782\ue783\ue784"⟩,
  ⟨0xA6B9, "\ue785\ue786\ue787\ue788\ue789\ue78a\ue78b\ue78c"⟩,
  ⟨0xA6D9, "\ue78d\ue78e\ue78f\ue790\ue791\ue792\ue793"⟩, ⟨0xA6EC, "\ue794\ue795"⟩, ⟨0xA6F3, "\ue796"⟩,
  ⟨0xA6F6, "\ue797\ue798\ue799\ue79a\ue79b\ue79c\ue79d\ue79e\ue79f"⟩,
  ⟨0xA7C2, "\ue7a0\ue7a1\ue7a2\ue7a3\ue7a4\ue7a5\ue7a6\ue7a7\ue7a8\ue7a9\ue7aa\ue7ab\ue7ac\ue7ad\ue7ae"⟩,
  ⟨0xA7F2, "\ue7af\ue7b0\ue7b1\ue7b2\ue7b3\ue7b4\ue7b5\ue7b6\ue7b7\ue7b8\ue7b9\ue7ba\ue7bb"⟩,
  ⟨0xA896, "\ue7bc\ue7bd\ue7be\ue7bf\ue7c0\ue7c1\ue7c2\ue7c3\ue7c4\ue7c5\ue7c6"⟩, ⟨0xA8BC, "\ue7c7"⟩,
  ⟨0xA8BF, "ǹ"⟩, ⟨0xA8C1, "\ue7c9\ue7ca\ue7cb\ue7cc"⟩,
  ⟨0xA8EA, "\ue7cd\ue7ce\ue7cf\ue7d0\ue7d1\ue7d2\ue7d3\ue7d4\ue7d5\ue7d6\ue7d7\ue7d8\ue7d9\ue7da\ue7db\ue7dc" ++
      "\ue7dd\ue7de\ue7df\ue7e0\ue7e1"⟩,
  ⟨0xA958, "\ue7e2"⟩, ⟨0xA95B, "\ue7e3"⟩, ⟨0xA95D, "\ue7e4\ue7e5\ue7e6"⟩, ⟨0xA989, "〾⿰⿱⿲⿳⿴⿵⿶⿷⿸⿹⿺⿻"⟩,
  ⟨0xA997, "\ue7f4\ue7f5\ue7f6\ue7f7\ue7f8\ue7f9\ue7fa\ue7fb\ue7fc\ue7fd\ue7fe\ue7ff\ue800"⟩,
  ⟨0xA9F0, "\ue801\ue802\ue803\ue804\ue805\ue806\ue807\ue808\ue809\ue80a\ue80b\ue80c\ue80d\ue80e\ue80f"⟩,
  ⟨0xD7FA, "\ue810\ue811\ue812\ue813\ue814"⟩,
  ⟨0xFE50, "⺁\ue816\ue817\ue818⺄㑳㑇⺈⺋\ue81e㖞㘚㘎⺌⺗㥮㤘\ue826㧏㧟㩳㧐\ue82b\ue82c㭎㱮㳠⺧\ue831\ue832⺪䁖䅟⺮䌷⺳⺶⺷\ue83b䎱䎬⺻䏝䓖䙡䙌" ++
      "\ue843"⟩,
  ⟨0xFE80, "䜣䜩䝼䞍⻊䥇䥺䥽䦂䦃䦅䦆䦟䦛䦷䦶\ue854\ue855䲣䲟䲠䲡䱷䲢䴓䴔䴕䴖䴗䴘䴙䶮\ue864"⟩]

/-- The number of a private character that a pair of GB 18030 stands for. -/
def privatePair? (a b : Nat) : Option Nat := do
  let trail ← gbkTrail? b
  if 0xAA ≤ a ∧ a ≤ 0xAF ∧ 0xA1 ≤ b then some (0xE000 + (a - 0xAA) * 94 + (b - 0xA1))
  else if 0xF8 ≤ a ∧ a ≤ 0xFE ∧ 0xA1 ≤ b then some (0xE234 + (a - 0xF8) * 94 + (b - 0xA1))
  else if 0xA1 ≤ a ∧ a ≤ 0xA7 ∧ trail < 96 then some (0xE4C6 + (a - 0xA1) * 96 + trail)
  else none

/-- The character of a pair in GB 18030. -/
def gb18030Pair? (a b : Nat) : Option Char :=
  (gbkPair? a b).orElse fun _ => (Stretch.find? gb18030Symbols (a * 256 + b)).orElse fun _ =>
    (privatePair? a b).map Char.ofNat

/-- The characters of the first plane that no pair stands for, in order: runs of consecutive ones, by the place of the
first one and its number. -/
def gb18030Runs : List (Nat × Nat) := [
   (0, 0x0080), (36, 0x00A5), (38, 0x00A9), (45, 0x00B2), (50, 0x00B8), (81, 0x00D8), (89, 0x00E2),
   (95, 0x00EB), (96, 0x00EE), (100, 0x00F4), (103, 0x00F8), (104, 0x00FB), (105, 0x00FD), (109, 0x0102),
   (126, 0x0114), (133, 0x011C), (148, 0x012C), (172, 0x0145), (175, 0x0149), (179, 0x014E), (208, 0x016C),
   (306, 0x01CF), (307, 0x01D1), (308, 0x01D3), (309, 0x01D5), (310, 0x01D7), (311, 0x01D9), (312, 0x01DB),
   (313, 0x01DD), (341, 0x01FA), (428, 0x0252), (443, 0x0262), (544, 0x02C8), (545, 0x02CC), (558, 0x02DA),
   (741, 0x03A2), (742, 0x03AA), (749, 0x03C2), (750, 0x03CA), (805, 0x0402), (819, 0x0450), (820, 0x0452),
   (7922, 0x2011), (7924, 0x2017), (7925, 0x201A), (7927, 0x201E), (7934, 0x2027), (7943, 0x2031),
   (7944, 0x2034), (7945, 0x2036), (7950, 0x203C), (8062, 0x20AD), (8148, 0x2104), (8149, 0x2106),
   (8152, 0x210A), (8164, 0x2117), (8174, 0x2122), (8236, 0x216C), (8240, 0x217A), (8262, 0x2194),
   (8264, 0x219A), (8374, 0x2209), (8380, 0x2210), (8381, 0x2212), (8384, 0x2216), (8388, 0x221B),
   (8390, 0x2221), (8392, 0x2224), (8393, 0x2226), (8394, 0x222C), (8396, 0x222F), (8401, 0x2238),
   (8406, 0x223E), (8416, 0x2249), (8419, 0x224D), (8424, 0x2253), (8437, 0x2262), (8439, 0x2268),
   (8445, 0x2270), (8482, 0x2296), (8485, 0x229A), (8496, 0x22A6), (8521, 0x22C0), (8603, 0x2313),
   (8936, 0x246A), (8946, 0x249C), (9046, 0x254C), (9050, 0x2574), (9063, 0x2590), (9066, 0x2596),
   (9076, 0x25A2), (9092, 0x25B4), (9100, 0x25BE), (9108, 0x25C8), (9111, 0x25CC), (9113, 0x25D0),
   (9131, 0x25E6), (9162, 0x2607), (9164, 0x260A), (9218, 0x2641), (9219, 0x2643), (11329, 0x2E82),
   (11331, 0x2E85), (11334, 0x2E89), (11336, 0x2E8D), (11346, 0x2E98), (11361, 0x2EA8), (11363, 0x2EAB),
   (11366, 0x2EAF), (11370, 0x2EB4), (11372, 0x2EB8), (11375, 0x2EBC), (11389, 0x2ECB), (11682, 0x2FFC),
   (11686, 0x3004), (11687, 0x3018), (11692, 0x301F), (11694, 0x302A), (11714, 0x303F), (11716, 0x3094),
   (11723, 0x309F), (11725, 0x30F7), (11730, 0x30FF), (11736, 0x312A), (11982, 0x322A), (11989, 0x3232),
   (12102, 0x32A4), (12336, 0x3390), (12348, 0x339F), (12350, 0x33A2), (12384, 0x33C5), (12393, 0x33CF),
   (12395, 0x33D3), (12397, 0x33D6), (12510, 0x3448), (12553, 0x3474), (12851, 0x359F), (12962, 0x360F),
   (12973, 0x361B), (13738, 0x3919), (13823, 0x396F), (13919, 0x39D1), (13933, 0x39E0), (14080, 0x3A74),
   (14298, 0x3B4F), (14585, 0x3C6F), (14698, 0x3CE1), (15583, 0x4057), (15847, 0x4160), (16318, 0x4338),
   (16434, 0x43AD), (16438, 0x43B2), (16481, 0x43DE), (16729, 0x44D7), (17102, 0x464D), (17122, 0x4662),
   (17315, 0x4724), (17320, 0x472A), (17402, 0x477D), (17418, 0x478E), (17859, 0x4948), (17909, 0x497B),
   (17911, 0x497E), (17915, 0x4984), (17916, 0x4987), (17936, 0x499C), (17939, 0x49A0), (17961, 0x49B8),
   (18664, 0x4C78), (18703, 0x4CA4), (18814, 0x4D1A), (18962, 0x4DAF), (19043, 0x9FA6), (33469, 0xE76C),
   (33470, 0xE7C8), (33471, 0xE7E7), (33484, 0xE815), (33485, 0xE819), (33490, 0xE81F), (33497, 0xE827),
   (33501, 0xE82D), (33505, 0xE833), (33513, 0xE83C), (33520, 0xE844), (33536, 0xE856), (33550, 0xE865),
   (37845, 0xF92D), (37921, 0xF97A), (37948, 0xF996), (38029, 0xF9E8), (38038, 0xF9F2), (38064, 0xFA10),
   (38065, 0xFA12), (38066, 0xFA15), (38069, 0xFA19), (38075, 0xFA22), (38076, 0xFA25), (38078, 0xFA2A),
   (39108, 0xFE32), (39109, 0xFE45), (39113, 0xFE53), (39114, 0xFE58), (39115, 0xFE67), (39116, 0xFE6C),
   (39265, 0xFF5F), (39394, 0xFFE6)]

/-- How many characters of the first plane have four bytes. -/
def gb18030Count : Nat := 39420

/-- The character of four bytes in GB 18030. -/
def gb18030Four? (a b c d : Nat) : Option Char :=
  if a < 0x81 ∨ 0xFE < a ∨ c < 0x81 ∨ 0xFE < c ∨ d < 0x30 ∨ 0x39 < d then none
  else
    let place (lead : Nat) : Nat := ((a - lead) * 10 + (b - 0x30)) * 1260 + (c - 0x81) * 10 + (d - 0x30)
    if a < 0x85 then
      let n := place 0x81
      if n < gb18030Count then
        (gb18030Runs.reverse.find? fun run => run.1 ≤ n).map fun run => Char.ofNat (run.2 + (n - run.1))
      else none
    else if 0x90 ≤ a then
      let n := 0x10000 + place 0x90
      if n ≤ 0x10FFFF then some (Char.ofNat n) else none
    else none

/-- Reads GB 2312: ASCII, and pairs of other bytes. -/
def gb2312Reader : Reader Unit := .plain fun a rest =>
  if a < 0x80 then .char (Char.ofNat a) 1 else .pair (gb2312Pair? a) rest

/-- Reads GBK. -/
def gbkReader : Reader Unit := .plain fun a rest =>
  if a < 0x80 then .char (Char.ofNat a) 1 else .pair (gbkPair? a) rest

/-- Reads GB 18030: as GBK, and where the second byte is a digit, four bytes. -/
def gb18030Reader : Reader Unit := .plain fun a rest =>
  if a < 0x80 then .char (Char.ofNat a) 1
  else match rest with
    | [] => .unfinished
    | b :: more =>
      if 0x30 ≤ b ∧ b ≤ 0x39 then
        match more with
        | c :: d :: _ => .ofChar? 4 (gb18030Four? a b c d)
        | _ => .unfinished
      else .ofChar? 2 (gb18030Pair? a b)

/-- What `~` and the byte after it mean in HZ, with the state after them: whether pairs follow. -/
def hzMark (inPairs : Bool) (b : Nat) : Taken × Bool :=
  if b = 0x7E ∧ !inPairs then (.char '~' 2, inPairs)
  else if b = 0x7B ∧ !inPairs then (.points [] 2, true)
  else if b = 0x0A ∧ !inPairs then (.points [] 2, inPairs)
  else if b = 0x7D ∧ inPairs then (.points [] 2, false)
  else (.illegal 1, inPairs)

/-- Reads HZ: ASCII, and between marks pairs of GB 2312 without their highest bits. -/
def hzReader : Reader Bool where
  start := false
  take inPairs a rest :=
    if a = 0x7E then
      match rest with
      | [] => (.unfinished, inPairs)
      | b :: _ => hzMark inPairs b
    else if 0x80 ≤ a then (.illegal 1, inPairs)
    else if inPairs then (.pair (fun b => gb2312.at? (a - 0x20) (b - 0x20)) rest, inPairs)
    else (.char (Char.ofNat a) 1, inPairs)

/-! ## Big5 and its extensions -/

/-- The place of the second byte of a pair in Big5, counted from one. -/
def big5Cell (b : Nat) : Nat :=
  if 0x40 ≤ b ∧ b ≤ 0x7E then b - 0x3F
  else if 0xA1 ≤ b ∧ b ≤ 0xFE then b - 0x61
  else 0

/-- The character of a pair in Big5. -/
def big5Pair? (a b : Nat) : Option Char := big5.at? (a - 0xA0) (big5Cell b)

/-- Characters of code page 950 outside of Big5, or different ones. -/
def cp950Symbols : List Stretch := [
  ⟨0xA145, "‧"⟩, ⟨0xA14E, "﹑"⟩, ⟨0xA1C2, "¯"⟩, ⟨0xA1E3, "～"⟩, ⟨0xA1F2, "⊕⊙"⟩, ⟨0xA241, "∕﹨"⟩, ⟨0xA244, "￥"⟩,
  ⟨0xA246, "￠￡"⟩, ⟨0xA3E1, "€"⟩, ⟨0xF9D6, "碁銹裏墻恒粧嫺╔╦╗╠╬╣╚╩╝╒╤╕╞╪╡╘╧╛╓╥╖╟╫╢╙╨╜║═╭╮╰╯▓"⟩]

/-- The character of a pair in code page 950. -/
def cp950Pair? (a b : Nat) : Option Char :=
  (Stretch.find? cp950Symbols (a * 256 + b)).orElse fun _ => big5Pair? a b

/-- The pairs of Hong Kong's extension that stand for two characters. -/
def hkscsDouble? (a b : Nat) : Option (List Char) :=
  [(0x8862, ['\u00ca', '\u0304']), (0x8864, ['\u00ca', '\u030c']), (0x88A3, ['\u00ea', '\u0304']),
    (0x88A5, ['\u00ea', '\u030c'])].lookup (a * 256 + b)

/-- The character of a pair in Hong Kong's extension of Big5, which has other characters in some rows. -/
def hkscsPair? (a b : Nat) : Option Char :=
  let ofBig5 := if a < 0xC6 ∨ 0xC8 < a ∨ (a = 0xC6 ∧ b < 0xA1) then big5Pair? a b else none
  ofBig5.orElse fun _ => hkscs.at? (a - 0x86) (big5Cell b)

/-- Reads Big5. -/
def big5Reader : Reader Unit := .plain fun a rest =>
  if a < 0x80 then .char (Char.ofNat a) 1 else .pair (big5Pair? a) rest

/-- Reads code page 950. -/
def cp950Reader : Reader Unit := .plain fun a rest =>
  if a < 0x80 then .char (Char.ofNat a) 1 else .pair (cp950Pair? a) rest

/-- Reads Big5 with Hong Kong's characters. -/
def hkscsReader : Reader Unit := .plain fun a rest =>
  if a < 0x80 then .char (Char.ofNat a) 1
  else match rest.head?.bind (hkscsDouble? a) with
    | some cs => .points (cs.map .char) 2
    | none => .pair (hkscsPair? a) rest

/-- ASCII stands for itself. -/
theorem gbk_ascii {bytes : List Nat} (h : ∀ b ∈ bytes, b < 0x80) :
    gbkReader.decode bytes = .ok (bytes.map fun b => .char (Char.ofNat b)) :=
  Reader.decodeFrom_single (fun b hb _ => by simp [gbkReader, Reader.plain, Taken.char, h b hb]) 0

/-- Without the mark, ASCII stands for itself. -/
theorem hz_ascii {bytes : List Nat} (h : ∀ b ∈ bytes, b < 0x80 ∧ b ≠ 0x7E) :
    hzReader.decode bytes = .ok (bytes.map fun b => .char (Char.ofNat b)) :=
  Reader.decodeFrom_single (fun b hb _ => by
    have := (h b hb).1
    have hn : ¬ 0x80 ≤ b := by omega
    simp [hzReader, Taken.char, (h b hb).2, hn]) 0

end ActivityLog.Text.Multibyte
