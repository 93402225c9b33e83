/-!
# Characters in their places

A text as its characters, each with its position, line and column. Layout is part of what a YAML
text says, so a reader looks at both. A carriage return ends a line like a line feed, and the two
together end it once; the separators of lines and paragraphs and the next-line control end it too.
-/

namespace Switchboard.Yaml

structure Place where
  char : Char
  index : Nat
  line : Nat
  column : Nat
  /-- Nothing, a blank or the end of a line comes right before. -/
  apart : Bool

def isLineEnd (c : Char) : Bool :=
  c = '\n' || c = '\r' || c = '\u0085' || c = '\u2028' || c = '\u2029'

def isSpaceOrTab (c : Char) : Bool := c = ' ' || c = '\t'

/-- The characters that a text may hold. -/
def isReadable (c : Char) : Bool :=
  c = '\t' || c = '\n' || c = '\r' || (' ' ≤ c && c ≤ '~') || c = '\u0085'
    || ('\u00a0' ≤ c && c ≤ '\ufffd') || '\uffff' < c

def placesFrom (index line column : Nat) (apart : Bool) : List Char → List Place
  | [] => []
  | '\r' :: '\n' :: cs =>
    ⟨'\n', index, line, column, apart⟩ :: placesFrom (index + 2) (line + 1) 0 true cs
  | c :: cs =>
    if isLineEnd c then
      ⟨if c = '\r' then '\n' else c, index, line, column, apart⟩
        :: placesFrom (index + 1) (line + 1) 0 true cs
    else
      ⟨c, index, line, column, apart⟩
        :: placesFrom (index + 1) line (column + 1) (isSpaceOrTab c) cs

/-- The places of a text whose characters are all readable; a byte order mark at its start has none.
-/
def places? (cs : List Char) : Option (List Place) :=
  if cs.all isReadable then
    match cs with
    | '\uFEFF' :: cs => some (placesFrom 0 0 0 true cs)
    | cs => some (placesFrom 0 0 0 true cs)
  else none

namespace Place

def isBlank (p : Place) : Bool := isSpaceOrTab p.char

def isBreak (p : Place) : Bool := isLineEnd p.char

/-- What the end of a line reads as: separators of lines and paragraphs stay what they are. -/
def breakChar (p : Place) : Char := if p.char = '\u0085' then '\n' else p.char

/-- The marks of a collection in brackets. -/
def isFlowMark (p : Place) : Bool :=
  p.char = ',' || p.char = '[' || p.char = ']' || p.char = '\x7b' || p.char = '\x7d'

end Place

/-- Nothing but a blank or the end of the line follows at once. -/
def standsAlone : List Place → Bool
  | [] => true
  | p :: _ => p.isBlank || p.isBreak

/-- The next character is one of these. -/
def isNext (marks : List Char) : List Place → Bool
  | [] => false
  | p :: _ => marks.contains p.char

/-- A line that begins with three marks: hyphens begin a document, points end it. -/
def isMarker (mark : Char) : List Place → Bool
  | p :: q :: r :: ps =>
    p.column = 0 && p.char = mark && q.char = mark && r.char = mark && standsAlone ps
  | _ => false

/-- A document begins or ends here. -/
def isOver (ps : List Place) : Bool := isMarker '-' ps || isMarker '.' ps

/-- What follows the blanks here. -/
def pastBlanks (ps : List Place) : List Place := ps.dropWhile Place.isBlank

/-- What follows a comment here, if there is one; it has to stand apart from what is before it. -/
def pastComment : List Place → List Place
  | [] => []
  | p :: ps =>
    if p.char = '#' && p.apart then ps.dropWhile fun q => !q.isBreak else p :: ps

/-- The next line, if nothing but a comment is left of this one. -/
def nextLine? (ps : List Place) : Option (List Place) :=
  match pastComment (pastBlanks ps) with
  | [] => some []
  | p :: ps => if p.isBreak then some ps else none

end Switchboard.Yaml
