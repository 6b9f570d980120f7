import ActivityLog.Failure.Encoding
import ActivityLog.Text.CodePage
import ActivityLog.Text.Escapes
import ActivityLog.Text.LowerCase
import ActivityLog.Text.Multibyte.Codecs
import ActivityLog.Text.Punycode
import ActivityLog.Text.Shifted

/-!
# Encodings of files of variables

A file of variables may be in another encoding than UTF-8. `Encoding.ofName` finds an encoding by one of its names, in
which case does not matter and any marks between letters and digits are the same. `Encoding.decode` reads bytes.
-/

namespace ActivityLog.Settings

/-- Encodings of texts. -/
inductive Encoding where
  /-- UTF-8; perhaps a mark at the start belongs to the encoding. -/
  | utf8 (marked : Bool)
  /-- UTF-16 in an order; without one a mark at the start gives it. -/
  | utf16 (order : Option Text.Wide.Order)
  /-- UTF-32 in an order; without one a mark at the start gives it. -/
  | utf32 (order : Option Text.Wide.Order)
  /-- UTF-7. -/
  | shifted
  /-- Each byte is the character of its number. -/
  | latin1
  /-- ASCII, and no other bytes. -/
  | ascii
  /-- A page of one character for each byte. -/
  | table (page : Text.CodePage)
  /-- An encoding of several bytes for a character. -/
  | wide (codec : Text.Multibyte.Codec)
  /-- Latin-1 with escapes; in the raw form only those by number. -/
  | escapes (raw : Bool)
  /-- ASCII that says where other characters belong. -/
  | punycode
  /-- Parts between points, which may be in Punycode. -/
  | domain
  /-- What is no encoding. -/
  | undefined

namespace Encoding

/-- A name in small letters. Points stay, other marks and what is not ASCII become one `_` between letters and
digits. -/
def plainName (name : String) : String :=
  let kept (c : Char) : Bool := c.isAlphanum || c == '.'
  let rec go (gap : Bool) (started : Bool) : List Char → List Char
    | [] => []
    | c :: rest =>
      if kept c then
        if gap && started then '_' :: c.toLower :: go false true rest else c.toLower :: go false true rest
      else go true started rest
  String.ofList (go false false name.toList)

/-- The encodings that have further names. -/
def families : List (Encoding × List String) := [
  (.utf8 false, ["utf_8", "cp65001", "u8", "utf", "utf8", "utf8_ucs2", "utf8_ucs4"]),
  (.utf8 true, ["utf_8_sig"]),
  (.utf16 none, ["utf_16", "u16", "utf16"]),
  (.utf16 (some .little), ["utf_16_le", "unicodelittleunmarked", "utf_16le"]),
  (.utf16 (some .big), ["utf_16_be", "unicodebigunmarked", "utf_16be"]),
  (.utf32 none, ["utf_32", "u32", "utf32"]),
  (.utf32 (some .little), ["utf_32_le", "utf_32le"]),
  (.utf32 (some .big), ["utf_32_be", "utf_32be"]),
  (.shifted, ["utf_7", "u7", "unicode_1_1_utf_7", "utf7"]),
  (.latin1, ["latin_1", "8859", "charmap", "cp819", "csisolatin1", "ibm819", "iso8859", "iso8859_1", "iso_8859_1",
    "iso_8859_1_1987", "iso_ir_100", "l1", "latin", "latin1"]),
  (.ascii, ["ascii", "646", "ansi_x3.4_1968", "ansi_x3.4_1986", "ansi_x3_4_1968", "cp367", "csascii", "ibm367",
    "iso646_us", "iso_646.irv_1991", "iso_ir_6", "us", "us_ascii"]),
  (.escapes false, ["unicode_escape"]),
  (.escapes true, ["raw_unicode_escape"]),
  (.punycode, ["punycode"]),
  (.domain, ["idna"]),
  (.undefined, ["undefined"])]

/-- Names of ways to write bytes, which make no text. -/
def noText : List String :=
  ["base64_codec", "base64", "base_64", "bz2_codec", "bz2", "hex_codec", "hex", "quopri_codec", "quopri",
    "quoted_printable", "quotedprintable", "rot_13", "rot13", "uu_codec", "uu", "zlib_codec", "zip", "zlib"]

/-- The encodings with their names, each one's own name first. -/
def all : List (Encoding × List String) :=
  families ++ Text.CodePage.all.map (fun page => (.table page, page.names)) ++
    Text.Multibyte.Codec.all.map fun codec => (.wide codec, codec.names)

/-- The encoding of a plain name. Points in further names may stand for `_`, but not in an encoding's own name. -/
def find? (plain : String) : Option Encoding :=
  let joined := String.ofList (plain.toList.map fun c => if c == '.' then '_' else c)
  match all.find? fun e => e.2.contains plain with
  | some (encoding, _) => some encoding
  | none => (all.find? fun e => (e.2.drop 1).contains joined).map Prod.fst

/-- The encoding of a name. -/
def ofName (name : String) : Except Failure Encoding :=
  let plain := plainName name
  if name.toList.contains '\x00' then .error (.fault .value "embedded null character")
  else if noText.contains plain then
    .error (.fault (.other "LookupError")
      ("'" ++ name ++ "' is not a text encoding; use codecs.open() to handle arbitrary codecs"))
  else match find? plain with
    | some encoding => .ok encoding
    | none => .error (.fault (.other "LookupError") ("unknown encoding: " ++ name))

/-- Reads UTF-16 with a name of its own in faults. -/
def pairs (bytes : List UInt8) (order : Text.Wide.Order) (start : Nat) : Except Failure String :=
  let codec := match order with
    | .little => "utf-16-le"
    | .big => "utf-16-be"
  match Text.Wide.decodePairs order start (bytes.drop start) with
  | .ok cs => .ok (Text.ofChars cs)
  | .error e => .error (.undecodable codec (bytes.getD e.start 0) e.start e.width e.fault.message)

/-- Reads UTF-32 with a name of its own in faults. -/
def fours (bytes : List UInt8) (order : Text.Wide.Order) (start : Nat) : Except Failure String :=
  let codec := match order with
    | .little => "utf-32-le"
    | .big => "utf-32-be"
  match Text.Wide.decodeFours order start (bytes.drop start) with
  | .ok cs => .ok (Text.ofChars cs)
  | .error e => .error (.undecodable codec (bytes.getD e.start 0) e.start e.width e.fault.message)

/-- What stands in the place of a text that must start with a mark and does not. -/
def unmarked (name : String) (read : Except Failure String) : Except Failure String :=
  match read with
  | .ok "" => .ok ""
  | .ok _ => .error (.fault (.other "UnicodeError") (name ++ " stream does not start with BOM"))
  | .error f => .error f

/-- The text of bytes that must be ASCII for an encoding. -/
def within (codec reason : String) (bytes : List UInt8) : Except Failure String :=
  match bytes.findIdx? (128 ≤ ·) with
  | none => .ok (Latin1.decode bytes)
  | some i => .error (.undecodable codec (bytes.getD i 0) i 1 reason)

/-- The text of code points in Punycode. -/
def ofPunycode : Except Text.Punycode.Fault (List Text.Point) → Except Failure String
  | .ok ps => .ok (Text.ofPoints ps)
  | .error (.notAscii byte place) =>
    .error (.undecodable "ascii" (UInt8.ofNat byte) place 1 (Text.Punycode.Fault.notAscii byte place).message)
  | .error f => .error (.fault (.other "UnicodeError") f.message)

/-- The text that bytes spell. -/
def decode (bytes : List UInt8) : Encoding → Except Failure String
  | .utf8 marked => Utf8.text (if marked && [0xEF, 0xBB, 0xBF].isPrefixOf bytes then bytes.drop 3 else bytes)
  | .utf16 (some order) => pairs bytes order 0
  | .utf16 none =>
    match bytes with
    | 0xFF :: 0xFE :: _ => pairs bytes .little 2
    | 0xFE :: 0xFF :: _ => pairs bytes .big 2
    | _ => unmarked "UTF-16" (pairs bytes .little 0)
  | .utf32 (some order) => fours bytes order 0
  | .utf32 none =>
    match bytes with
    | 0xFF :: 0xFE :: 0 :: 0 :: _ => fours bytes .little 4
    | 0 :: 0 :: 0xFE :: 0xFF :: _ => fours bytes .big 4
    | _ => unmarked "UTF-32" (fours bytes .little 0)
  | .shifted =>
    match Text.Shifted.decode bytes with
    | .ok ps => .ok (Text.ofPoints ps)
    | .error e => .error (.undecodable "utf7" (bytes.getD e.start 0) e.start e.width e.fault.message)
  | .latin1 => .ok (Latin1.decode bytes)
  | .ascii => within "ascii" "ordinal not in range(128)" bytes
  | .table page =>
    match page.decode bytes with
    | .ok s => .ok s
    | .error i => .error (.undecodable "charmap" (bytes.getD i 0) i 1 "character maps to <undefined>")
  | .wide codec =>
    match codec.decode (bytes.map UInt8.toNat) with
    | .ok ps => .ok (Text.ofPoints ps)
    | .error ⟨_, _, .unsupported⟩ =>
      .error (.fault (.other "RuntimeError") Text.Multibyte.Fault.unsupported.message)
    | .error e => .error (.undecodable codec.name (bytes.getD e.start 0) e.start e.width e.fault.message)
  | .escapes raw =>
    match (if raw then Text.Escapes.decodeRaw else Text.Escapes.decode) (bytes.map UInt8.toNat) with
    | .ok ps => .ok (Text.ofPoints ps)
    | .error e =>
      let codec := if raw then "rawunicodeescape" else "unicodeescape"
      .error (.undecodable codec (bytes.getD e.start 0) e.start e.width e.fault.message)
  | .punycode => ofPunycode (Text.Punycode.decode (bytes.map UInt8.toNat))
  | .domain => ofPunycode (Text.Punycode.Domain.decode (bytes.map UInt8.toNat))
  | .undefined => .error (.fault (.other "UnicodeError") "undefined encoding")

/-- Every byte of Latin-1 is a character. -/
theorem decode_latin1 (bytes : List UInt8) : decode bytes .latin1 = .ok (Latin1.decode bytes) := rfl

end Encoding

end ActivityLog.Settings
