import Switchboard.Json.Token
import Switchboard.Text.Search
import Switchboard.Text.Utf8

/-!
# Percent signs and queries

Bytes in paths and queries are written as a percent sign and two hexadecimal digits. A percent sign
without digits stands for itself. In a query, pairs of a name and a value stand between ampersands,
and a plus sign stands for a space.
-/

namespace Switchboard.Http

/-- The bytes of a text, with those written by percent signs. -/
def percentBytes : List Char → List UInt8
  | [] => []
  | '%' :: a :: b :: cs =>
    match Json.hexValue? a, Json.hexValue? b with
    | some high, some low => UInt8.ofNat (high * 16 + low) :: percentBytes cs
    | _, _ => 0x25 :: percentBytes (a :: b :: cs)
  | c :: cs => Text.utf8 (String.singleton c) ++ percentBytes cs

/-- A part of a path, if its bytes are a text. -/
def pathPart? (s : String) : Option String := Text.ofUtf8? (percentBytes s.toList)

def spaceForPlus (c : Char) : Char := if c = '+' then ' ' else c

/-- A part of a query; bytes that are no text are replaced. -/
def queryPart (cs : List Char) : String := Text.ofUtf8Lossy (percentBytes (cs.map spaceForPlus))

/-- The name and value of a pair, which are apart at the first equals sign. -/
def queryPair (cs : List Char) : String × String :=
  (queryPart (Text.before (· = '=') cs), queryPart ((cs.dropWhile (· ≠ '=')).drop 1))

/-- The pairs of a query. -/
def queryPairs (query : String) : List (String × String) :=
  ((Text.splitAt (· = '&') query.toList).filter fun cs => !cs.isEmpty).map queryPair

/-- The value of a name that may be given once; nothing if it is given more often. -/
def onceGiven? (pairs : List (String × String)) (name : String) : Option (Option String) :=
  match pairs.filter fun p => p.1 == name with
  | [] => some none
  | [p] => some (some p.2)
  | _ => none

/-- The characters of a path that are written by percent signs. -/
def isEscapedInPath (c : Char) : Bool :=
  c.toNat ≤ 0x20 || 0x7f ≤ c.toNat ||
    ['"', '#', '<', '>', '?', '\x60', '\x7b', '\x7d', '^'].contains c

def percentByte (b : UInt8) : List Char :=
  ['%', (Nat.digitChar (b.toNat / 16)).toUpper, (Nat.digitChar (b.toNat % 16)).toUpper]

/-- The path of an address: what follows the host, as it is sent. -/
def pathOf (url : String) : String :=
  let rest := (url.toList.dropWhile (· ≠ ':')).drop 3
  let path := Text.before (fun c => c = '?' || c = '#') (rest.dropWhile (· ≠ '/'))
  String.ofList (path.flatMap fun c =>
    if isEscapedInPath c then (Text.utf8 (String.singleton c)).flatMap percentByte else [c])

end Switchboard.Http
