import ActivityLog.Text.Multibyte.Designated

/-!
# The encodings of several bytes by name

All encodings of several bytes for a character, with the names they are known by: in small letters, words joined by `_`,
each one's own name first.
-/

namespace ActivityLog.Text.Multibyte

/-- An encoding: its names, and how its bytes are read. -/
structure Codec where
  names : List String
  decode : List Nat → Except Error (List Point)

namespace Codec

/-- The name that faults give. -/
def name (c : Codec) : String := c.names.headD ""

/-- An encoding that a reader reads. -/
def of {σ : Type} (names : List String) (r : Reader σ) : Codec := ⟨names, r.decode⟩

/-- Further names of the encodings with escape sequences. -/
def designatedNames : List (String × List String) := [
  ("iso2022_kr", ["csiso2022kr", "iso2022kr", "iso_2022_kr"]),
  ("iso2022_jp", ["csiso2022jp", "iso2022jp", "iso_2022_jp"]),
  ("iso2022_jp_1", ["iso2022jp_1", "iso_2022_jp_1"]),
  ("iso2022_jp_2", ["iso2022jp_2", "iso_2022_jp_2"]),
  ("iso2022_jp_2004", ["iso_2022_jp_2004", "iso2022jp_2004"]),
  ("iso2022_jp_3", ["iso2022jp_3", "iso_2022_jp_3"]),
  ("iso2022_jp_ext", ["iso2022jp_ext", "iso_2022_jp_ext"])]

/-- All encodings of several bytes for a character. -/
def all : List Codec := [
  .of ["big5", "big5_tw", "csbig5", "x_mac_trad_chinese"] big5Reader,
  .of ["big5hkscs", "big5_hkscs", "hkscs"] hkscsReader,
  .of ["cp932", "932", "ms932", "mskanji", "ms_kanji"] cp932Reader,
  .of ["cp949", "949", "ms949", "uhc"] cp949Reader,
  .of ["cp950", "950", "ms950"] cp950Reader,
  .of ["euc_jis_2004", "jisx0213", "eucjis2004", "euc_jis2004"] (eucJisReader .of2004),
  .of ["euc_jisx0213", "eucjisx0213"] (eucJisReader .of2000),
  .of ["euc_jp", "eucjp", "ujis", "u_jis"] eucJpReader,
  .of ["euc_kr", "euckr", "korean", "ksc5601", "ks_c_5601", "ks_c_5601_1987", "ksx1001", "ks_x_1001",
    "x_mac_korean"] eucKrReader,
  .of ["gb18030", "gb18030_2000"] gb18030Reader,
  .of ["gb2312", "chinese", "csiso58gb231280", "euc_cn", "euccn", "eucgb2312_cn", "gb2312_1980", "gb2312_80",
    "iso_ir_58", "x_mac_simp_chinese"] gb2312Reader,
  .of ["gbk", "936", "cp936", "ms936"] gbkReader,
  .of ["johab", "cp1361", "ms1361"] johabReader,
  .of ["shift_jis", "csshiftjis", "shiftjis", "sjis", "s_jis", "x_mac_japanese"] shiftJisReader,
  .of ["shift_jis_2004", "shiftjis2004", "sjis_2004", "s_jis_2004"] (shiftJis0213Reader .of2004),
  .of ["shift_jisx0213", "shiftjisx0213", "sjisx0213", "s_jisx0213"] (shiftJis0213Reader .of2000),
  .of ["hz", "hzgb", "hz_gb", "hz_gb_2312"] hzReader] ++
  repertoires.map fun (name, r) => .of (name :: (designatedNames.lookup name).getD []) (designatedReader r)

end Codec

end ActivityLog.Text.Multibyte
