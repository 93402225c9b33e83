import Switchboard.Yaml.Place

/-!
# Folded lines

Scalars that run over several lines. A single line break between two lines reads as a space, of
several all but the first stay, and blanks at the edges of the lines are dropped; a separator of
lines or paragraphs always stays. The pieces of a scalar say which of its characters take part in
this.
-/

namespace Switchboard.Yaml

inductive Piece where
  | char (c : Char)
  | blank (c : Char)
  | lineBreak (c : Char)
  /-- An escaped line break joins two lines without a space. -/
  | joint

/-- The text so far and the blanks after it, both backwards, and what the breaks after them read as.
-/
structure Folding where
  text : List Char
  blanks : List Char
  gap : Option (List Char)

namespace Folding

def start : Folding := ⟨[], [], none⟩

/-- What breaks read as after one more. -/
def widen (c : Char) : Option (List Char) → List Char
  | none => if c = '\n' then [' '] else [c]
  | some [' '] => [c]
  | some breaks => c :: breaks

/-- What was held back joins the text. -/
def close (f : Folding) : Folding := ⟨f.gap.getD f.blanks ++ f.text, [], none⟩

def step (f : Folding) : Piece → Folding
  | .char c => { f.close with text := c :: f.close.text }
  | .blank c => if f.gap.isSome then f else { f with blanks := c :: f.blanks }
  | .lineBreak c => { f with blanks := [], gap := some (widen c f.gap) }
  | .joint => { f.close with gap := some [] }

def ofPieces (pieces : List Piece) : Folding := pieces.foldl step start

/-- The text without what follows its last character. -/
def trimmed (f : Folding) : String := String.ofList f.text.reverse

def whole (f : Folding) : String := f.close.trimmed

end Folding

/-- The piece that an unescaped character makes. -/
def Place.piece (p : Place) : Piece :=
  if p.isBreak then .lineBreak p.breakChar else if p.isBlank then .blank p.char else .char p.char

end Switchboard.Yaml
