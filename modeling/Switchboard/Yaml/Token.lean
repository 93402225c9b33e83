import Switchboard.Yaml.Place
import Switchboard.Json.Token
import Switchboard.Text.Utf8

/-!
# Tokens

The marks and words of a YAML text. Indentation says where the collections of a block begin and end,
so these have tokens of their own.
-/

namespace Switchboard.Yaml

/-- A tag as it is written: the handle that stands for the first part of it, and the rest. -/
structure ShortTag where
  handle : String
  rest : String
  deriving DecidableEq

inductive Token where
  | beginBlockSeq
  | beginBlockMap
  | endBlock
  | beginSeq
  | endSeq
  | beginMap
  | endMap
  /-- The hyphen in front of an item. -/
  | item
  | comma
  /-- A key follows; in front of most keys nothing is written. -/
  | key
  /-- The colon in front of a value. -/
  | value
  | anchor (name : String)
  | reference (name : String)
  | tag (t : ShortTag)
  | scalar (text : String) (plain : Bool)
  | beginDocument
  | endDocument
  | version (major minor : Nat)
  /-- The first part of tags that a handle stands for. -/
  | tagHandle (handle first : String)
  /-- No token can be read here. -/
  | unreadable
  deriving DecidableEq

def isNameChar (p : Place) : Bool := p.char.isAlphanum || p.char = '_' || p.char = '-'

/-- A name and what follows it. -/
def word (ps : List Place) : String × List Place :=
  (String.ofList ((ps.takeWhile isNameChar).map Place.char), ps.dropWhile isNameChar)

/-- The name after the mark of an anchor or an alias, and what follows it. -/
def anchorName? (ps : List Place) : Option (String × List Place) :=
  let (name, rest) := word ps
  if name ≠ "" && (standsAlone rest || isNext ['?', ':', ',', ']', '\x7d', '%', '@', '\x60'] rest)
  then some (name, rest)
  else none

/-- The marks a tag may hold. -/
def tagMarks : List Char :=
  [';', '/', '?', ':', '@', '&', '=', '+', '$', '.', '%', '!', '~', '*', '\'', '(', ')']

/-- The characters of a tag; a tag that is spelt out may hold brackets. -/
def isTagChar (spelt : Bool) (p : Place) : Bool :=
  isNameChar p || tagMarks.contains p.char
    || (spelt && [',', '[', ']'].contains p.char)

/-- The bytes of a part of a tag, where a percent sign and two digits stand for any byte. -/
def tagBytes? : List Char → Option (List UInt8)
  | [] => some []
  | '%' :: a :: b :: cs => do
    let byte := (← Json.hexValue? a) * 16 + (← Json.hexValue? b)
    return UInt8.ofNat byte :: (← tagBytes? cs)
  | c :: cs =>
    if c = '%' then none
    else (tagBytes? cs).map fun bytes => Text.utf8 (String.singleton c) ++ bytes

/-- Part of a tag and what follows it. -/
def tagPart? (spelt : Bool) (ps : List Place) : Option (String × List Place) := do
  let bytes ← tagBytes? ((ps.takeWhile (isTagChar spelt)).map Place.char)
  return (← Text.ofUtf8? bytes, ps.dropWhile (isTagChar spelt))

/-- A handle: an exclamation mark, or a name between two of them. Without the second mark the name
is no part of it. -/
def handle (ps : List Place) : String × List Place :=
  match ps with
  | p :: rest =>
    if p.char = '!' then
      let (name, after) := word rest
      match after with
      | q :: beyond => if q.char = '!' then ("!" ++ name ++ "!", beyond) else ("!", rest)
      | [] => ("!", rest)
    else ("", ps)
  | [] => ("", ps)

/-- A tag and what follows it. A lone exclamation mark is a tag of its own. -/
def shortTag? (ps : List Place) : Option (ShortTag × List Place) := do
  match ps with
  | _ :: q :: rest =>
    if q.char = '<' then
      let (name, after) ← tagPart? true rest
      if name = "" || !isNext ['>'] after then none else return (⟨"", name⟩, after.drop 1)
    else
      let (h, rest) := handle ps
      let (name, after) ← tagPart? false rest
      if h ≠ "!" && name = "" then none
      else if name = "" then return (⟨"", "!"⟩, after)
      else return (⟨h, name⟩, after)
  | _ => return (⟨"", "!"⟩, [])

/-- A number of a version, of nine digits at most, and what follows it. -/
def versionNumber? (ps : List Place) : Option (Nat × List Place) :=
  let digits := ps.takeWhile fun p => p.char.isDigit
  if digits.isEmpty || 9 < digits.length then none
  else
    some (digits.foldl (fun n p => n * 10 + (p.char.toNat - '0'.toNat)) 0,
      ps.dropWhile fun p => p.char.isDigit)

/-- A directive after its mark, and the next line. -/
def directive? (ps : List Place) : Option (Token × List Place) := do
  let (name, rest) := word ps
  if !standsAlone rest then none else
  let rest := pastBlanks rest
  if name = "YAML" then
    let (major, rest) ← versionNumber? rest
    if !isNext ['.'] rest then none else
    let (minor, rest) ← versionNumber? (rest.drop 1)
    return (.version major minor, ← nextLine? rest)
  else if name = "TAG" then
    let (h, rest) := handle rest
    if h = "" || !(rest.head?.any Place.isBlank) then none else
    let (first, rest) ← tagPart? true (pastBlanks rest)
    if first = "" || !standsAlone rest then none else
    return (.tagHandle h first, ← nextLine? rest)
  else none

end Switchboard.Yaml
