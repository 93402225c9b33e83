import Switchboard.Flow.Options
import Switchboard.Text.Case

/-!
# Selected options

The option a contact means by a reply: the first one with the reply for title, up to case and blanks
around, or for id.
-/

namespace Switchboard

/-- A title as replies are compared with it. -/
def plainTitle (s : String) : String := Text.lower (Text.trim s)

def Button.selected (reply : String) (b : Button) : Bool :=
  plainTitle b.title == plainTitle reply || b.id == reply

def Row.selected (reply : String) (r : Row) : Bool :=
  plainTitle r.title == plainTitle reply || r.id == reply

/-- The id of the button a reply selects. -/
def selectedButton? (buttons : List Button) (reply : String) : Option String :=
  (buttons.find? (Button.selected reply)).map Button.id

/-- The id of the row a reply selects, in any section. -/
def selectedRow? (sections : List Section) (reply : String) : Option String :=
  ((Section.allRows sections).find? (Row.selected reply)).map Row.id

end Switchboard
