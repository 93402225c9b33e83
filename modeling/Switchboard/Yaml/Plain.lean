import Switchboard.Yaml.Folding

/-!
# Plain scalars

Scalars without quotes. They end before a colon or a comment that stands apart, and within brackets
before the marks of the collection as well. A line that begins in the block of the scalar goes on
with it.
-/

namespace Switchboard.Yaml

/-- The marks that no plain scalar begins with. -/
def reserved : List Char :=
  ['-', '?', ':', ',', '[', ']', '\x7b', '\x7d', '#', '&', '*', '!', '|', '>', '\'', '"', '%', '@',
    '\x60']

/-- A plain scalar begins here. A hyphen may begin one unless a blank follows, and outside brackets
a question mark or a colon with something behind it. -/
def beginsPlain (inFlow : Bool) : List Place → Bool
  | [] => false
  | p :: ps =>
    if p.isBlank || p.isBreak then false
    else !reserved.contains p.char
      || (p.char = '-' && !(ps.head?.any Place.isBlank))
      || (!inFlow && (p.char = '?' || p.char = ':') && !standsAlone ps)

/-- What lies between the last character of a plain scalar and the next. -/
inductive Gap where
  | none
  | blanks
  | lines
  deriving DecidableEq

/-- A plain scalar and what follows it, and whether that is on a later line. Lines begin in the
column `floor` at least; a tab before it spoils the scalar, as does a colon within brackets before
one of their marks. -/
def plainFrom? (inFlow : Bool) (floor : Nat) :
    Gap → List Place → Option (List Piece × Gap × List Place)
  | gap, [] => some ([], gap, [])
  | gap, p :: ps =>
    let withPiece := Option.map fun (pieces, rest) => (p.piece :: pieces, rest)
    if p.isBreak then withPiece (plainFrom? inFlow floor .lines ps)
    else if p.isBlank then
      if gap = .lines && p.char = '\t' && p.column < floor then none
      else withPiece (plainFrom? inFlow floor (if gap = .lines then .lines else .blanks) ps)
    else if gap ≠ .none
        && (isOver (p :: ps) || p.char = '#' || (!inFlow && p.column < floor)) then
      some ([], gap, p :: ps)
    else if inFlow && p.char = ':' && isNext [',', '?', '[', ']', '\x7b', '\x7d'] ps then none
    else if (p.char = ':' && standsAlone ps) || (inFlow && p.isFlowMark) then
      some ([], gap, p :: ps)
    else withPiece (plainFrom? inFlow floor .none ps)

/-- The text of a plain scalar, what follows it, and whether that is on a later line. -/
def plain? (inFlow : Bool) (floor : Nat) (ps : List Place) :
    Option (String × Bool × List Place) := do
  let (pieces, gap, rest) ← plainFrom? inFlow floor .none ps
  return ((Folding.ofPieces pieces).trimmed, gap = .lines, rest)

end Switchboard.Yaml
