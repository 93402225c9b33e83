import Switchboard.Yaml
import Switchboard.Yaml.Layout

/-!
# Reading trees

The grammar of tokens. A text holds one document, or none; a second one is refused. Behind the mark
that ends the first, whatever is no document is passed over. A value may be given a name and a tag,
in either order.
-/

namespace Switchboard.Yaml

/-- How far the tokens have been read. -/
structure Reading where
  ahead : List Token
  /-- The names given so far, the latest first, with their numbers. -/
  names : List (String × Nat)
  named : List (Nat × Yaml)
  handles : List (String × String)
  size : Nat

abbrev Read := StateT Reading Option

namespace Read

def peek : Read (Option Token) := do return (← get).ahead.head?

def skip : Read Unit := modify fun r => { r with ahead := r.ahead.drop 1 }

/-- Adds to the size of the tree. -/
def count (n : Nat) : Read Unit := modify fun r => { r with size := r.size + n }

/-- A comma has to follow. -/
def comma : Read Unit := do
  match ← peek with
  | some .comma => skip
  | _ => failure

end Read

open Read

def anchor? : Read (Option String) := do
  match ← peek with
  | some (.anchor name) =>
    skip
    return some name
  | _ => return none

/-- A tag in full: what its handle stands for, and the rest of it. -/
def tag? : Read (Option String) := do
  match ← peek with
  | some (.tag t) =>
    skip
    if t.handle = "" then return some t.rest
    match (← get).handles.lookup t.handle with
    | some first => return some (first ++ t.rest)
    | none => failure
  | _ => return none

/-- The name and the tag of a value. -/
def properties : Read (Option String × Option String) := do
  match ← anchor? with
  | some name => return (some name, ← tag?)
  | none =>
    match ← tag? with
    | some tag => return (← anchor?, some tag)
    | none => return (none, none)

/-- A number for a name, which stands for it from here on. -/
def number (name : String) : Read Nat := do
  let n := (← get).names.length
  modify fun r => { r with names := (name, n) :: r.names }
  return n

mutual

/-- A value with its properties. In a block it may be laid out in columns, and after a key its items
may stand in the column of the key. -/
def value : Nat → (inBlock besideKey : Bool) → Read Yaml
  | 0, _, _ => failure
  | fuel + 1, inBlock, besideKey => do
    match ← peek with
    | some (.reference name) =>
      skip
      count 1
      match (← get).names.lookup name with
      | some n => return .reference n
      | none => failure
    | _ =>
      let (name, tag) ← properties
      match name with
      | some name =>
        let n ← number name
        let v ← content fuel inBlock besideKey true tag
        modify fun r => { r with named := (n, v) :: r.named }
        return v
      | none => content fuel inBlock besideKey tag.isSome tag

/-- A value without its properties; with them it may be left out. -/
def content : Nat → (inBlock besideKey hasProperties : Bool) → Option String → Read Yaml
  | 0, _, _, _, _ => failure
  | fuel + 1, inBlock, besideKey, hasProperties, tag => do
    let collection (read : Read Yaml) : Read Yaml := do
      skip
      count 2
      read
    match ← peek, inBlock with
    | some (.scalar text plain), _ =>
      skip
      count 1
      return .scalar ⟨text, plain, tag⟩
    | some .beginSeq, _ => collection do return .seq tag (← flowItems fuel true)
    | some .beginMap, _ => collection do return .map tag (← flowEntries fuel true)
    | some .beginBlockSeq, true => collection do return .seq tag (← blockItems fuel)
    | some .beginBlockMap, true => collection do return .map tag (← blockEntries fuel)
    | t, _ =>
      if t = some .item && besideKey then
        count 2
        return .seq tag (← bareItems fuel)
      else if hasProperties then
        count 1
        return empty tag
      else failure

/-- A value, or nothing in front of one of these tokens or at the end. -/
def valueBefore : Nat → (absent : List Token) → (inBlock besideKey : Bool) → Read Yaml
  | 0, _, _, _ => failure
  | fuel + 1, absent, inBlock, besideKey => do
    if (← peek).any absent.contains then
      count 1
      return empty none
    else value fuel inBlock besideKey

/-- The items of a block up to its end. -/
def blockItems : Nat → Read (List Yaml)
  | 0 => failure
  | fuel + 1 => do
    match ← peek with
    | some .item =>
      skip
      let item ← valueBefore fuel [.item, .endBlock] true false
      return item :: (← blockItems fuel)
    | some .endBlock =>
      skip
      return []
    | _ => failure

/-- Items in the column of their key, which have no end of their own. -/
def bareItems : Nat → Read (List Yaml)
  | 0 => failure
  | fuel + 1 => do
    match ← peek with
    | some .item =>
      skip
      let item ← valueBefore fuel [.item, .key, .value, .endBlock] true false
      return item :: (← bareItems fuel)
    | _ => return []

/-- The entries of a block up to its end. -/
def blockEntries : Nat → Read (List (Yaml × Yaml))
  | 0 => failure
  | fuel + 1 => do
    match ← peek with
    | some .key =>
      skip
      let key ← valueBefore fuel [.key, .value, .endBlock] true true
      let v ← valueAfterColon fuel [.key, .value, .endBlock] true
      return (key, v) :: (← blockEntries fuel)
    | some .endBlock =>
      skip
      return []
    | _ => failure

/-- The value of a key: nothing without a colon or in front of one of these tokens. -/
def valueAfterColon : Nat → (absent : List Token) → (inBlock : Bool) → Read Yaml
  | 0, _, _ => failure
  | fuel + 1, absent, inBlock => do
    match ← peek with
    | some .value =>
      skip
      valueBefore fuel absent inBlock inBlock
    | _ =>
      count 1
      return empty none

/-- The items of a sequence in brackets up to its end, with a comma in front of each but the first.
A pair among them is a mapping of its own. -/
def flowItems : Nat → (first : Bool) → Read (List Yaml)
  | 0, _ => failure
  | fuel + 1, first => do
    if !first && (← peek) ≠ some .endSeq then comma
    match ← peek with
    | some .endSeq =>
      skip
      return []
    | some .key =>
      skip
      count 2
      let key ←
        if (← peek).any [.value, .comma, .endSeq].contains then
          -- a key that is left out takes the mark behind it along
          skip
          count 1
          pure (empty none)
        else value fuel false false
      let v ← valueAfterColon fuel [.comma, .endSeq] false
      return .map none [(key, v)] :: (← flowItems fuel false)
    | _ =>
      let item ← value fuel false false
      return item :: (← flowItems fuel false)

/-- The entries of a mapping in brackets up to its end, with a comma in front of each but the first.
What is not marked as a key is one without a value. -/
def flowEntries : Nat → (first : Bool) → Read (List (Yaml × Yaml))
  | 0, _ => failure
  | fuel + 1, first => do
    if !first && (← peek) ≠ some .endMap then comma
    match ← peek with
    | some .endMap =>
      skip
      return []
    | some .key =>
      skip
      let key ← valueBefore fuel [.value, .comma, .endMap] false false
      let v ← valueAfterColon fuel [.comma, .endMap] false
      return (key, v) :: (← flowEntries fuel false)
    | _ =>
      let key ← value fuel false false
      count 1
      return (key, empty none) :: (← flowEntries fuel false)

end

/-- The parts of tags that handles stand for unless a directive says otherwise. -/
def defaultHandles : List (String × String) := [("!", "!"), ("!!", "tag:yaml.org,2002:")]

/-- The handles that directives declare, and the tokens behind the mark of their document. Each
handle is declared once, and so is the version. -/
def directives? (hasVersion : Bool) (handles : List (String × String)) :
    List Token → Option (List (String × String) × List Token)
  | .version major minor :: ts =>
    if hasVersion || major ≠ 1 || !([1, 2].contains minor) then none
    else directives? true handles ts
  | .tagHandle h first :: ts =>
    if (handles.lookup h).isSome then none else directives? hasVersion ((h, first) :: handles) ts
  | .beginDocument :: ts => some (handles ++ defaultHandles, ts)
  | _ => none

/-- A token that belongs to no value. -/
def isBetween : Token → Bool
  | .version .. | .tagHandle .. | .beginDocument | .endDocument => true
  | _ => false

/-- The tree of a document without a value. -/
def bare : Tree := ⟨empty none, [], 1⟩

/-- The tree of a document and the tokens behind it, the first of which can be read. -/
def root? (handles : List (String × String)) (ts : List Token) : Option (Tree × List Token) := do
  let (root, r) ← (value (4 * ts.length + 4) true false).run ⟨ts, [], [], handles, 0⟩
  if r.ahead.head? = some .unreadable then none else return (⟨root, r.named, r.size⟩, r.ahead)

/-- The tree of a document that begins with its mark, and the tokens behind it. -/
def marked? (ts : List Token) : Option (Tree × List Token) := do
  let (handles, ts) ← directives? false [] ts
  if ts.head?.all isBetween then return (bare, ts) else root? handles ts

/-- The tree of the first document, which needs no mark, and the tokens behind it. -/
def first? (ts : List Token) : Option (Tree × List Token) :=
  match ts.head? with
  | none => some (bare, ts)
  | some t => if isBetween t && t ≠ .endDocument then marked? ts else root? defaultHandles ts

/-- The tree of a text. -/
def tree? (text : String) : Option Tree := do
  let (tree, rest) ← first? (tokens (← places? text.toList))
  let isEnded := rest.head? = some .endDocument
  let beyond := rest.dropWhile (· = .endDocument)
  if beyond.isEmpty || (isEnded && (marked? beyond).isNone) then return tree else none

end Switchboard.Yaml
