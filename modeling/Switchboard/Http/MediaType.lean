import Switchboard.Text.Case
import Switchboard.Text.Search

/-!
# Media types

Which content types name JSON: the type application with the subtype json, or with the suffix json
after a plus sign, and with any parameters.
-/

namespace Switchboard.Http

def isTokenChar (c : Char) : Bool := c.isAlphanum || "!#$%&'*+-.^_`|~".toList.contains c

/-- What follows the value of a parameter: a run of token characters, or a text in quotes. -/
def afterValue? : List Char → Option (List Char)
  | '"' :: cs =>
    match cs.dropWhile (· ≠ '"') with
    | _ :: rest => some rest
    | [] => none
  | cs => some (cs.dropWhile isTokenChar)

/-- Whether parameters are well formed: each a name, an equals sign and a value, after a semicolon.
-/
def parametersValid : Nat → List Char → Bool
  | _, [] => true
  | 0, _ => false
  | fuel + 1, ';' :: cs =>
    let cs := cs.dropWhile (· = ' ')
    match cs.takeWhile isTokenChar, cs.dropWhile isTokenChar with
    | _ :: _, '=' :: value =>
      match afterValue? value with
      | some rest => parametersValid fuel rest
      | none => false
    | _, _ => false
  | _, _ => false

/-- The subtype before its last plus sign, and the suffix after it. -/
def splitSuffix (subtype : List Char) : List Char × Option (List Char) :=
  match subtype.reverse.dropWhile (· ≠ '+') with
  | _ :: c :: cs => ((c :: cs).reverse, some (Text.afterLast (· = '+') subtype))
  | _ => (subtype, none)

/-- Whether a content type names JSON. -/
def namesJson (contentType : String) : Bool :=
  let cs := (Text.lowerAscii contentType).toList
  match cs.takeWhile isTokenChar, cs.dropWhile isTokenChar with
  | type, '/' :: rest =>
    let subtype := rest.takeWhile isTokenChar
    let parameters := rest.dropWhile isTokenChar
    let (base, suffix) := splitSuffix subtype
    type == "application".toList && (base == "json".toList || suffix == some "json".toList)
      && parametersValid (parameters.length + 1) parameters
  | _, _ => false

end Switchboard.Http
