import Switchboard.Yaml.Place

/-!
# Indented scalars

Texts written as a block of indented lines below their header. A literal block keeps its line
breaks, a folded one reads a single break between two lines that begin at the indentation as a
space. The header says what becomes of the breaks at the end, and may say how far the block is
indented; otherwise its first line does. No tab may stand in the indentation.
-/

namespace Switchboard.Yaml

inductive LastBreaks where
  | strip
  | one
  | keep

structure Header where
  folded : Bool
  last : LastBreaks
  /-- The indentation beyond that of the surrounding block. -/
  indent : Option Nat

def lastBreaks? : Char → Option LastBreaks
  | '-' => some .strip
  | '+' => some .keep
  | _ => none

def indent? (c : Char) : Option Nat :=
  if '1' ≤ c ∧ c ≤ '9' then some (c.toNat - '0'.toNat) else none

/-- The marks of a header after its first, each given once at most, and what follows them. -/
def Header.marks (h : Header) (withLast withIndent : Bool) : List Place → Header × List Place
  | [] => (h, [])
  | p :: ps =>
    match lastBreaks? p.char, indent? p.char with
    | some last, _ =>
      if withLast then (h, p :: ps) else { h with last := last }.marks true withIndent ps
    | _, some n =>
      if withIndent then (h, p :: ps) else { h with indent := some n }.marks withLast true ps
    | _, _ => (h, p :: ps)

/-- A line of a text: its places and the break that ends it, if any does. -/
structure RawLine where
  places : List Place
  ending : Option Place

/-- The lines of a text. -/
def lines : List Place → List RawLine
  | [] => []
  | p :: ps =>
    if p.isBreak then ⟨[], some p⟩ :: lines ps
    else match lines ps with
      | [] => [⟨[p], none⟩]
      | l :: ls => { l with places := p :: l.places } :: ls

namespace RawLine

def isSpace (p : Place) : Bool := p.char = ' '

def indentation (l : RawLine) : Nat := (l.places.takeWhile isSpace).length

/-- A line of spaces. -/
def isEmpty (l : RawLine) : Bool := l.places.all isSpace

/-- A tab comes right after the spaces. -/
def isTabbed (l : RawLine) : Bool :=
  (l.places.dropWhile isSpace).head?.any fun p => p.char = '\t'

def breakChar (l : RawLine) : Option Char := l.ending.map Place.breakChar

/-- The places of a line again. -/
def whole (l : RawLine) : List Place := l.places ++ l.ending.toList

end RawLine

/-- The indentation of a block that does not state it. -/
def detectIndent? (floor : Nat) (ls : List RawLine) : Option Nat :=
  let leading := ls.takeWhile RawLine.isEmpty ++ (ls.dropWhile RawLine.isEmpty).take 1
  if leading.any RawLine.isTabbed then none
  else some (leading.foldl (fun n l => max n l.indentation) (max floor 1))

/-- A line of a block: nothing, or a text, and the break that ends it, if any does. -/
structure Line where
  text : Option (List Char)
  ending : Option Char

/-- The lines of a block and the lines after it. A line without text belongs to the block if a break
ends it. -/
def blockLines? (indent : Nat) : List RawLine → Option (List Line × List RawLine)
  | [] => some ([], [])
  | l :: ls =>
    let withLine := fun line =>
      (blockLines? indent ls).map fun (block, next) => (line :: block, next)
    if l.isEmpty && l.indentation ≤ indent then
      if l.ending.isSome then withLine ⟨none, l.breakChar⟩ else some ([], [])
    else if l.indentation < indent then if l.isTabbed then none else some ([], l :: ls)
    else withLine ⟨some ((l.places.drop indent).map Place.char), l.breakChar⟩

def beginsBlank (cs : List Char) : Bool := cs.head?.any isSpaceOrTab

namespace Header

/-- What the breaks between two lines of text read as; lines without text end in `empty`. -/
def between (h : Header) (above : List Char) (ending : Option Char) (below empty : List Char) :
    List Char :=
  if h.folded && ending == some '\n' && !beginsBlank above && !beginsBlank below then
    if empty.isEmpty then [' '] else empty
  else ending.toList ++ empty

/-- What the breaks after the last line of text read as. -/
def after (h : Header) (ending : Option Char) (empty : List Char) : List Char :=
  match h.last with
  | .strip => []
  | .one => ending.toList
  | .keep => ending.toList ++ empty

/-- The text of lines below a line of text, if there is one above, and lines without text that end
in `empty`. -/
def textFrom (h : Header) (above : List Char) (ending : Option Char) (empty : List Char) :
    List Line → List Char
  | [] => h.after ending empty
  | ⟨none, e⟩ :: ls => h.textFrom above ending (empty ++ e.toList) ls
  | ⟨some text, e⟩ :: ls => h.between above ending text empty ++ text ++ h.textFrom text e [] ls

end Header

/-- A block scalar after the first mark of its header, and what follows it. Nothing but a comment
may stand beside the header. -/
def indented? (folded : Bool) (floor : Nat) (ps : List Place) : Option (String × List Place) := do
  let (h, rest) := Header.marks ⟨folded, .one, none⟩ false false ps
  let below := lines (← nextLine? rest)
  let indent ←
    match h.indent with
    | some n => some (floor - 1 + n)
    | none => detectIndent? floor below
  let (block, next) ← blockLines? indent below
  return (String.ofList (h.textFrom [] none [] block), next.flatMap RawLine.whole)

end Switchboard.Yaml
