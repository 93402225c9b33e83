import Switchboard.Yaml.Indented
import Switchboard.Yaml.Plain
import Switchboard.Yaml.Quoted
import Switchboard.Yaml.Token

/-!
# From layout to tokens

A text is read from left to right. Collections laid out in columns begin with the first token in a
column further right and end before the first one further left. A key is known by the colon behind
it, so a token that may be a key is remembered for as long as its colon may still come: to the end
of its line, and over a thousand and twenty-four characters at most.
-/

namespace Switchboard.Yaml

/-- A token that becomes a key if a colon follows. -/
structure Candidate where
  place : Place
  /-- How many tokens come before it. -/
  position : Nat
  /-- Nothing but a key can stand where it begins. -/
  required : Bool

/-- How far a text has been read. -/
structure Layout where
  ahead : List Place
  /-- The tokens so far, the latest first. -/
  tokens : List Token
  count : Nat
  /-- The first column that belongs to the innermost block. -/
  floor : Nat
  /-- The floors of the blocks around it. -/
  outer : List Nat
  /-- The candidate within each open bracket, from the inside, and the one outside all of them. -/
  candidates : List (Option Candidate)
  /-- A key or the mark of an item may begin here. -/
  mayBegin : Bool

namespace Candidate

/-- The colon would come too late in front of a place. -/
def isStale (c : Candidate) (p : Place) : Bool :=
  c.place.line < p.line || c.place.index + 1024 < p.index

end Candidate

/-- What follows line ends, comments, spaces and, where nothing may begin, tabs; and whether
something may begin there. Outside brackets something may begin on every new line. -/
def skipGap (inFlow : Bool) : (inComment mayBegin : Bool) → List Place → Bool × List Place
  | _, mayBegin, [] => (mayBegin, [])
  | inComment, mayBegin, p :: ps =>
    if p.isBreak then skipGap inFlow false (mayBegin || !inFlow) ps
    else if inComment || (p.char = '#' && p.apart) then skipGap inFlow true mayBegin ps
    else if p.char = ' ' || (p.char = '\t' && (inFlow || !mayBegin)) then
      skipGap inFlow false mayBegin ps
    else (mayBegin, p :: ps)

namespace Layout

def ofPlaces (ps : List Place) : Layout := ⟨ps, [], 0, 0, [], [none], true⟩

def inFlow (l : Layout) : Bool := !(l.candidates.drop 1).isEmpty

/-- A token that has been read, and what follows it. -/
def accept (l : Layout) (t : Token) (rest : List Place) : Layout :=
  { l with tokens := t :: l.tokens, count := l.count + 1, ahead := rest }

def skip (l : Layout) : Layout :=
  let (mayBegin, ahead) := skipGap l.inFlow false l.mayBegin l.ahead
  { l with mayBegin := mayBegin, ahead := ahead }

/-- A token behind as many others as `position` says. -/
def insert (l : Layout) (position : Nat) (t : Token) : Layout :=
  let behind := l.count - position
  { l with tokens := l.tokens.take behind ++ t :: l.tokens.drop behind, count := l.count + 1 }

def setCandidate (l : Layout) (c : Option Candidate) : Layout :=
  { l with candidates := c :: l.candidates.drop 1 }

def candidate? (l : Layout) : Option Candidate := l.candidates.head?.join

/-- The candidate here turns out to be no key. -/
def forget? (l : Layout) : Option Layout :=
  if l.candidate?.any Candidate.required then none else some (l.setCandidate none)

/-- A candidate whose colon can no longer come is none. -/
def dropStale? (l : Layout) (p : Place) : Option Layout :=
  if l.candidate?.any fun c => c.isStale p then l.forget? else some l

/-- The next token is a candidate if something may begin here. -/
def propose? (l : Layout) (p : Place) : Option Layout := do
  if l.mayBegin then
    let required := !l.inFlow && l.floor = p.column + 1
    return (← l.forget?).setCandidate (some ⟨p, l.count, required⟩)
  else return l

/-- As many of the innermost blocks end. -/
def endBlocks (l : Layout) (n : Nat) : Layout :=
  { l with
    tokens := List.replicate n .endBlock ++ l.tokens
    count := l.count + n
    floor := ((l.floor :: l.outer).drop n).headD 0
    outer := l.outer.drop n }

/-- The blocks that begin right of a column end. -/
def closeRightOf (l : Layout) (column : Nat) : Layout :=
  if l.inFlow then l
  else l.endBlocks ((l.floor :: l.outer).takeWhile fun floor => column + 1 < floor).length

/-- All blocks end. -/
def closeAll (l : Layout) : Layout := if l.inFlow then l else l.endBlocks l.outer.length

/-- A block begins in a column right of the block around it. -/
def openBlock (l : Layout) (t : Token) (position column : Nat) : Layout :=
  if l.inFlow || column < l.floor then l
  else { l.insert position t with floor := column + 1, outer := l.floor :: l.outer }

/-- Outside brackets a mark begins a block, if something may begin here. -/
def openAt? (l : Layout) (t : Token) (p : Place) : Option Layout :=
  if l.inFlow then some l
  else if l.mayBegin then some (l.openBlock t l.count p.column)
  else none

/-- A token between documents. -/
def between? (l : Layout) (t : Token) (rest : List Place) : Option Layout := do
  return { (← l.closeAll.forget?).accept t rest with mayBegin := false }

def openBracket? (l : Layout) (t : Token) (p : Place) (rest : List Place) : Option Layout := do
  let l := (← l.propose? p).accept t rest
  return { l with candidates := none :: l.candidates, mayBegin := true }

def closeBracket? (l : Layout) (t : Token) (rest : List Place) : Option Layout := do
  let l := (← l.forget?).accept t rest
  return { l with
    candidates := if l.inFlow then l.candidates.drop 1 else l.candidates, mayBegin := false }

def comma? (l : Layout) (rest : List Place) : Option Layout := do
  return { (← l.forget?).accept .comma rest with mayBegin := true }

def item? (l : Layout) (p : Place) (rest : List Place) : Option Layout := do
  let l ← (← l.openAt? .beginBlockSeq p).forget?
  return { l.accept .item rest with mayBegin := true }

def key? (l : Layout) (p : Place) (rest : List Place) : Option Layout := do
  let l ← (← l.openAt? .beginBlockMap p).forget?
  return { l.accept .key rest with mayBegin := !l.inFlow }

/-- A colon makes the candidate before it a key; without one, the key is left out. -/
def value? (l : Layout) (p : Place) (rest : List Place) : Option Layout := do
  match l.candidate? with
  | some c =>
    let l := (l.insert c.position .key).openBlock .beginBlockMap c.position c.place.column
    return { (l.setCandidate none).accept .value rest with mayBegin := false }
  | none =>
    let l ← l.openAt? .beginBlockMap p
    return { l.accept .value rest with mayBegin := !l.inFlow }

/-- A word or a scalar in one piece. -/
def word? (l : Layout) (t : Token) (p : Place) (rest : List Place) : Option Layout := do
  return { (← l.propose? p).accept t rest with mayBegin := false }

/-- A tag has to stand apart from its value, unless that is left out before a comma. -/
def tag? (l : Layout) (p : Place) (ps : List Place) : Option Layout := do
  let (t, rest) ← shortTag? (p :: ps)
  if standsAlone rest || (l.inFlow && isNext [','] rest) then l.word? (.tag t) p rest else none

def indentedScalar? (l : Layout) (p : Place) (rest : List Place) : Option Layout := do
  let l ← l.forget?
  let (text, rest) ← indented? (p.char = '>') l.floor rest
  return { l.accept (.scalar text false) rest with mayBegin := true }

def quotedScalar? (l : Layout) (p : Place) (rest : List Place) : Option Layout := do
  let (text, rest) ← quoted? p.char (if l.inFlow then 0 else l.floor) rest
  l.word? (.scalar text false) p rest

def plainScalar? (l : Layout) (p : Place) (ps : List Place) : Option Layout := do
  let (text, onNewLine, rest) ← plain? l.inFlow l.floor (p :: ps)
  return { ← l.word? (.scalar text true) p rest with mayBegin := onNewLine }

/-- The token that begins here. -/
def token? (l : Layout) (p : Place) (ps : List Place) : Option Layout :=
  let apart := l.inFlow || standsAlone ps
  if p.column = 0 && p.char = '%' then do
    let (t, rest) ← directive? ps
    l.between? t rest
  else if isMarker '-' (p :: ps) then l.between? .beginDocument (ps.drop 2)
  else if isMarker '.' (p :: ps) then l.between? .endDocument (ps.drop 2)
  else match p.char with
    | '[' => l.openBracket? .beginSeq p ps
    | '\x7b' => l.openBracket? .beginMap p ps
    | ']' => l.closeBracket? .endSeq ps
    | '\x7d' => l.closeBracket? .endMap ps
    | ',' => l.comma? ps
    | '*' => (anchorName? ps).bind fun (name, rest) => l.word? (.reference name) p rest
    | '&' => (anchorName? ps).bind fun (name, rest) => l.word? (.anchor name) p rest
    | '!' => l.tag? p ps
    | '\'' | '"' => l.quotedScalar? p ps
    | c =>
      if c = '-' && standsAlone ps then l.item? p ps
      else if c = '?' && apart then l.key? p ps
      else if c = ':' && apart then l.value? p ps
      else if (c = '|' || c = '>') && !l.inFlow then l.indentedScalar? p ps
      else if beginsPlain l.inFlow (p :: ps) then l.plainScalar? p ps
      else none

/-- The text with its next token read, or with all blocks closed at its end. -/
def next? (l : Layout) : Option (Layout × Bool) := do
  let l := l.skip
  match l.ahead with
  | [] => return (← l.closeAll.forget?, true)
  | p :: ps => return (← ((← l.dropStale? p).closeRightOf p.column).token? p ps, false)

/-- The tokens that will stay what they are: those in front of all candidates. -/
def settled (l : Layout) : List Token :=
  let first := l.candidates.foldl (fun n c => (c.map Candidate.position).elim n (min n)) l.count
  l.tokens.reverse.take first

/-- The tokens of the text, by as many steps at most. -/
def tokensWithin : Nat → Layout → List Token
  | 0, l => l.settled ++ [.unreadable]
  | steps + 1, l =>
    match l.next? with
    | none => l.settled ++ [.unreadable]
    | some (l, true) => l.tokens.reverse
    | some (l, false) => tokensWithin steps l

end Layout

/-- The tokens of a text, up to the first that cannot be read. -/
def tokens (ps : List Place) : List Token :=
  (Layout.ofPlaces ps).tokensWithin (ps.length + 1)

end Switchboard.Yaml
