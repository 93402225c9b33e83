import Switchboard.Catalog
import Switchboard.Decimal.Notation
import Switchboard.Decimal.Reading

/-!
# JSON values

The values that webhooks, stored documents and requests to platforms are made of. Numbers are
integers of sixty-four bits, with or without sign, or floating-point numbers. Objects list their
members in ascending order of name.
-/

namespace Switchboard

inductive Number where
  | int (i : Int)
  | float (x : Float)

inductive Json where
  | null
  | bool (b : Bool)
  | num (n : Number)
  | str (s : String)
  | arr (items : List Json)
  | obj (members : List (String × Json))

namespace Number

/-- The number as documents write it; what is not finite has no number text. -/
def text : Number → String
  | .int i => toString i
  | .float x => (Decimal.documentText? x).getD "null"

def int64? : Number → Option Int
  | .int i => if inInt64 i then some i else none
  | .float _ => none

def toFloat : Number → Float
  | .int i => Decimal.ofInt i
  | .float x => x

end Number

namespace Json

/-- An object with its members in order; of two with one name the last counts. -/
def object (members : List (String × Json)) : Json :=
  .obj (members.foldl (fun ms m => Catalog.insertAscending Prod.fst m ms) [])

/-- A floating-point number; what is not finite is written as null. -/
def ofFloat (x : Float) : Json := if x.isFinite then .num (.float x) else .null

def ofInt (i : Int) : Json := .num (.int i)

def ofText? : Option String → Json
  | some s => .str s
  | none => .null

/-- The members that are present. -/
def present (members : List (String × Option Json)) : List (String × Json) :=
  members.filterMap fun m => m.2.map fun v => (m.1, v)

/-- The member of an object with a name. -/
def field? (v : Json) (name : String) : Option Json :=
  match v with
  | .obj members => members.lookup name
  | _ => none

/-- The value reached through objects by a path of names. -/
def at? (v : Json) : List String → Option Json
  | [] => some v
  | name :: path => (v.field? name).bind fun w => w.at? path

def text? : Json → Option String
  | .str s => some s
  | _ => none

def flag? : Json → Option Bool
  | .bool b => some b
  | _ => none

def items? : Json → Option (List Json)
  | .arr items => some items
  | _ => none

/-- The items of an array; anything else has none. -/
def items (v : Json) : List Json := v.items?.getD []

def int64? : Json → Option Int
  | .num n => n.int64?
  | _ => none

def float? : Json → Option Float
  | .num n => some n.toFloat
  | _ => none

/-- A text, or the text of a number. -/
def scalarText? : Json → Option String
  | .str s => some s
  | .num n => some n.text
  | _ => none

end Json

end Switchboard
