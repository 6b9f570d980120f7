import ActivityLog.Failure.Encoding
import ActivityLog.Value

/-!
# Addresses of web requests

An address is put together from a host, a path and a query, and taken apart again, so what its path and query read as
may differ from what came in. The name that a request gives its host counts only if it is well formed
(`Authority.isValid`): letters, digits and marks, or a numeric address in brackets, then perhaps a port.
-/

namespace ActivityLog

namespace Authority

/-- The marks that may stand in a host's name beside letters and digits. -/
def marks : List Char := "-._~!$&'()*+,;=%".toList

/-- Characters of a host's name. -/
def isNameChar (c : Char) : Bool := c.isAlphanum || marks.contains c

/-- Digits of a numeric address in brackets. -/
def isHexDigit (c : Char) : Bool := c.isDigit || "abcdefABCDEF".toList.contains c

/-- Whether all characters are digits, of which there is at least one. -/
def areDigits (cs : List Char) : Bool := !cs.isEmpty && cs.all Char.isDigit

/-- The number that digits write. -/
def number (cs : List Char) : Nat := cs.foldl (fun n c => 10 * n + (c.toNat - '0'.toNat)) 0

/-- The largest port. -/
def largestPort : Nat := 65535

/-- Whether a text is a port. -/
def isPort (cs : List Char) : Bool := areDigits cs && Nat.ble (number cs) largestPort

/-- Whether a text is a colon and a port, or empty. -/
def isPortPart : List Char → Bool
  | [] => true
  | c :: cs => c == ':' && isPort cs

/-- The parts of a text between marks. -/
def parts (mark : Char) : List Char → List (List Char)
  | [] => [[]]
  | c :: rest =>
    if c = mark then [] :: parts mark rest
    else match parts mark rest with
      | part :: others => (c :: part) :: others
      | [] => [[c]]

/-- The largest number between the points of a numeric address. -/
def largestOctet : Nat := 255

/-- A number between points: up to three digits, no zero in front. -/
def isOctet (cs : List Char) : Bool :=
  areDigits cs && Nat.ble cs.length 3 && Nat.ble (number cs) largestOctet && (cs.length == 1 || cs.head? != some '0')

/-- Whether a text is a numeric address of four numbers between points. -/
def isDotted (cs : List Char) : Bool :=
  let numbers := parts '.' cs
  numbers.length == 4 && numbers.all isOctet

/-- A group of a numeric address: one to four hexadecimal digits. -/
def isGroup (cs : List Char) : Bool := !cs.isEmpty && Nat.ble cs.length 4 && cs.all isHexDigit

/-- The groups of a numeric address; four numbers between points at its end count as two groups. -/
def groupsOf (cs : List Char) : List (List Char) :=
  let groups := parts ':' cs
  match groups.getLast? with
  | some last => if isDotted last then groups.dropLast ++ [['0'], ['0']] else groups
  | none => groups

/-- Whether parts make a numeric address: eight groups, or fewer with one gap, which is an empty part between two
others and takes an empty part beside it along at either end. -/
def areGroups (parts : List (List Char)) : Bool :=
  let groups := parts.filter fun p => !p.isEmpty
  let inner := (parts.drop 1).dropLast
  let gaps := (inner.filter (·.isEmpty)).length
  let openStart := (parts.head?.getD []).isEmpty
  let openEnd := (parts.getLast?.getD []).isEmpty
  groups.all isGroup &&
    (if gaps = 0 then groups.length == 8 && parts.length == 8
      else Nat.ble groups.length 7 &&
        (if openStart && openEnd then parts.length == 3
          else gaps == 1 && (!openStart || (inner.head?.getD []).isEmpty) &&
            (!openEnd || (inner.getLast?.getD []).isEmpty)))

/-- Whether a text is a numeric address of groups between colons. -/
def isNumeric (cs : List Char) : Bool := cs.contains ':' && areGroups (groupsOf cs)

/-- The marks of an address of a later version. -/
def laterMarks : List Char := "-._~!$&'()*+,;=:".toList

/-- Whether a text is an address of a later version: `v`, the version in hexadecimal digits, a point, and the rest. -/
def isLater : List Char → Bool
  | 'v' :: rest =>
    let version := rest.takeWhile isHexDigit
    match rest.dropWhile isHexDigit with
    | '.' :: address =>
      !version.isEmpty && !address.isEmpty && address.all fun c => c.isAlphanum || laterMarks.contains c
    | _ => false
  | _ => false

/-- Whether a text can name a host, with or without a port. -/
def isValid : List Char → Bool
  | '[' :: rest =>
    let inside := rest.takeWhile (· != ']')
    match rest.dropWhile (· != ']') with
    | _ :: after => (isNumeric inside || isLater inside) && isPortPart after
    | [] => false
  | cs => !(cs.takeWhile isNameChar).isEmpty && isPortPart (cs.dropWhile isNameChar)

end Authority

/-- What an address is made of. -/
structure Address where
  authority : String
  path : String
  query : String

namespace Address

/-- What stands for a character of a path: those that would end it, and the backslash, are escaped. -/
def escapeChar (c : Char) : List Char :=
  if c = '?' then ['%', '3', 'F'] else if c = '#' then ['%', '2', '3'] else if c = '\\' then ['%', '5', 'C'] else [c]

/-- A path as it stands in an address, with a slash in front unless it is empty. -/
def escapePath (path : List Char) : List Char :=
  let escaped := path.flatMap escapeChar
  if escaped.isEmpty || escaped.head? = some '/' then escaped else '/' :: escaped

/-- The address without its scheme. -/
def afterScheme (a : Address) : List Char :=
  a.authority.toList ++ escapePath a.path.toList ++ (if a.query.isEmpty then [] else '?' :: a.query.toList)

/-- The address as a text. -/
def text (a : Address) : String := String.ofList ("http://".toList ++ a.afterScheme)

/-- The path and the query that the address reads as. -/
def pathAndQuery (a : Address) : String × String :=
  let cs := a.afterScheme.filter fun c => !(c == '\t' || c == '\r' || c == '\n')
  let rest := cs.dropWhile fun c => !(c == '/' || c == '?' || c == '#')
  let rest := rest.takeWhile (· != '#')
  (String.ofList (rest.takeWhile (· != '?')), String.ofList ((rest.dropWhile (· != '?')).drop 1))

/-- The address as an object. -/
def toValue (a : Address) : Value :=
  let (path, query) := a.pathAndQuery
  .object (.typed "URL" ("URL(" ++ Text.quoted a.text ++ ")") a.text false)
    [("scheme", .text "http"), ("path", .text path), ("query", .text query)]

end Address

end ActivityLog
