import Switchboard.Json
import Switchboard.Time.Timestamp

/-!
# Documents

Structured texts as readers of records see them. A reader asks for what it expects (a text, a flag,
the fields of a record) and gets nothing where the document holds something else. A record gives its
fields by name, or by position in the order of their declaration.
-/

namespace Switchboard

/-- The fields of a record. -/
structure Fields (δ : Type) where
  value? : String → Option δ
  /-- The fields are named; otherwise their position tells them apart. -/
  named : Bool

class Document (δ : Type) where
  isNull : δ → Bool
  text? : δ → Option String
  flag? : δ → Option Bool
  int64? : δ → Option Int
  /-- The name of a choice among fixed names. -/
  choice? : δ → Option String
  items? : δ → Option (List δ)
  members? : δ → Option (List (String × δ))
  /-- The fields of a record that declares these names. -/
  record? : List String → δ → Option (Fields δ)
  json? : δ → Option Json

namespace Json

/-- A choice is a name, or an object with that one name and no content. -/
def choice? : Json → Option String
  | .str s => some s
  | .obj [(s, .null)] => some s
  | _ => none

def members? : Json → Option (List (String × Json))
  | .obj members => some members
  | _ => none

/-- A record is an object, or an array of at most as many items as it declares fields. -/
def record? (names : List String) : Json → Option (Fields Json)
  | .obj members => some ⟨fun name => members.lookup name, true⟩
  | .arr items =>
    if items.length ≤ names.length then some ⟨fun name => (names.zip items).lookup name, false⟩
    else none
  | _ => none

instance : Document Json where
  isNull v := match v with
    | .null => true
    | _ => false
  text? := Json.text?
  flag? := Json.flag?
  int64? := Json.int64?
  choice? := Json.choice?
  items? := Json.items?
  members? := Json.members?
  record? := Json.record?
  json? := some

end Json

namespace Fields

variable {α δ : Type} [Document δ]

/-- A field that must be present. -/
def required (f : Fields δ) (name : String) (read : δ → Option α) : Option α :=
  (f.value? name).bind read

/-- A field that counts as given when it is missing. -/
def defaulted (f : Fields δ) (name : String) (fallback : α) (read : δ → Option α) : Option α :=
  match f.value? name with
  | none => some fallback
  | some v => read v

/-- Null, or a value. -/
def nullable (read : δ → Option α) (v : δ) : Option (Option α) :=
  if Document.isNull v then some none else (read v).map some

/-- A field that may be missing or null. -/
def optional (f : Fields δ) (name : String) (read : δ → Option α) : Option (Option α) :=
  f.defaulted name none (nullable read)

/-- A field that may be null, and missing where fields are named. -/
def orNull (f : Fields δ) (name : String) (read : δ → Option α) : Option (Option α) :=
  match f.value? name with
  | none => if f.named then some none else none
  | some v => nullable read v

end Fields

namespace Document

variable {δ : Type} [Document δ]

def instant? (v : δ) : Option Time.Instant := (text? v).bind Time.Instant.read?

/-- A list whose items are all of one kind. -/
def list? {α : Type} (read : δ → Option α) (v : δ) : Option (List α) :=
  (items? v).bind fun items => items.mapM read

/-- Named values of one kind. -/
def dictionary? {α : Type} (read : δ → Option α) (v : δ) : Option (Dictionary α) :=
  (members? v).bind fun members =>
    (members.mapM fun m => (read m.2).map fun x => (m.1, x)).map Catalog.ofList

end Document

end Switchboard
