import Switchboard.Decimal.Notation
import Switchboard.Flow.Options

/-!
# Plain forms

How a list or a place is written on a platform that has no form of its own for it: a list as a
numbered menu, a place as a link to a map.
-/

namespace Switchboard

def Row.menuLine (number : Nat) (r : Row) : String :=
  "\n" ++ toString number ++ ". " ++ r.title ++
    match r.description with
    | some description => " - " ++ description
    | none => ""

/-- The rows of a section, numbered onward. -/
def Section.menuLines (numbered : Nat) (s : Section) : String :=
  "\n\n*" ++ s.title ++ "*" ++
    String.join (s.rows.zipIdx.map fun (row, place) => row.menuLine (numbered + place + 1))

/-- The sections of a menu, with their rows numbered through. -/
def menuSections (numbered : Nat) : List Section → String
  | [] => ""
  | s :: sections => s.menuLines numbered ++ menuSections (numbered + s.rows.length) sections

/-- A text with a numbered menu below it. -/
def numberedMenu (text : String) (sections : List Section) : String :=
  text ++ menuSections 0 sections

/-- A line, unless it is empty. -/
def optionalLine (s : String) : String := if s.isEmpty then "" else s ++ "\n"

/-- A place by its name, its address and a link to a map. -/
def mapLink (latitude longitude : Float) (name address : String) : String :=
  optionalLine name ++ optionalLine address ++ "https://maps.google.com/?q="
    ++ Decimal.plainText latitude ++ "," ++ Decimal.plainText longitude

end Switchboard
