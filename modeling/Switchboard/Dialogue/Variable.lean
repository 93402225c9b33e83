import Switchboard.Flow
import Switchboard.Text.Case
import Switchboard.Text.Search

/-!
# Captured variables

The name under which a node keeps the answer to its question, and the names that stand for the
contact's own name.
-/

namespace Switchboard

/-- The words of a question that ask for a name. -/
def asksForName (question : String) : Bool :=
  let q := Text.lower question
  Text.contains q "nombre" || Text.contains q "name"

/-- The variable a node captures: the one it names, else the contact's name if it asks for a name,
else one of its own. -/
def Node.captureName (n : Node) : String :=
  match n.textField? "variableName" with
  | some name => Text.trim name
  | none =>
    if asksForName ((n.textField? "question").getD n.body) then "nombre" else "captured_" ++ n.id

/-- The variables that hold the contact's name, without separators and capitals. -/
def nameVariables : List String :=
  ["nombre", "name", "nombrecompleto", "tunombre", "fullname", "firstname", "primernombre",
    "contactname"]

def isSeparator (c : Char) : Bool := c = '_' || c = '-' || c = ' ' || c = '.'

/-- Whether a variable holds the contact's own name; separators and case do not matter. -/
def isNameVariable (name : String) : Bool :=
  nameVariables.contains
    (Text.lowerLetters (String.ofList (name.toList.filter fun c => !isSeparator c)))

end Switchboard
