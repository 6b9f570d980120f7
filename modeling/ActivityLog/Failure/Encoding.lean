import ActivityLog.Failure
import ActivityLog.Text.Latin1
import ActivityLog.Text.Utf8

/-!
# Faults of encodings

The faults of texts that cannot be written as bytes and of bytes that spell no text: their wording names the place.
-/

namespace ActivityLog

namespace Failure

/-- The fault of a text that an encoding has no bytes for: the first code point without bytes, where it stands, where
the last one of the run stands, and why. -/
def unencodable (codec : String) (point : Text.Point) (first last : Nat) (reason : String) : Failure :=
  let what := if first = last then
      "character '" ++ String.ofList (Text.numberEscape point.number) ++ "' in position " ++ toString first
    else "characters in position " ++ toString first ++ "-" ++ toString last
  .fault (.other "UnicodeEncodeError") ("'" ++ codec ++ "' codec can't encode " ++ what ++ ": " ++ reason)

/-- The fault of a text that Latin-1 cannot write. -/
def unwritable (e : Latin1.Unwritable) : Failure :=
  unencodable "latin-1" e.point e.first e.last "ordinal not in range(256)"

/-- The fault of bytes that an encoding has no characters for: the first of them, where they start, how many they are,
and why. -/
def undecodable (codec : String) (byte : UInt8) (start width : Nat) (reason : String) : Failure :=
  let what := if width = 1 then "byte 0x" ++ Text.hex 2 byte.toNat ++ " in position " ++ toString start
    else "bytes in position " ++ toString start ++ "-" ++ toString (start + width - 1)
  .fault (.other "UnicodeDecodeError") ("'" ++ codec ++ "' codec can't decode " ++ what ++ ": " ++ reason)

/-- The fault of bytes that are no UTF-8. -/
def unreadable (e : Utf8.Error) : Failure := undecodable "utf-8" e.byte e.start e.width e.fault.message

end Failure

/-- The Latin-1 bytes of a text. -/
def Latin1.bytes (s : String) : Except Failure (List UInt8) :=
  match Latin1.encode s with
  | .ok bytes => .ok bytes
  | .error e => .error (.unwritable e)

/-- The text that bytes spell in UTF-8. -/
def Utf8.text (bytes : List UInt8) : Except Failure String :=
  match Utf8.decode bytes with
  | .ok s => .ok s
  | .error e => .error (.unreadable e)

end ActivityLog
