import Switchboard.Json
import Switchboard.Text.Case
import Switchboard.Text.Search

/-!
# Requests and replies

The parts of a request that matter to the service, and the replies it gives.
-/

namespace Switchboard.Http

structure Request where
  method : String
  /-- The path, with its percent signs. -/
  path : String
  query : String
  headers : List (String × String)
  body : List UInt8

/-- Splits the target of a request into path and query; what follows a hash does not count. -/
def splitTarget (target : String) : String × String :=
  let cs := Text.before (· = '#') target.toList
  (String.ofList (Text.before (· = '?') cs), String.ofList ((cs.dropWhile (· ≠ '?')).drop 1))

/-- The first header with a name, in any case. -/
def Request.header? (r : Request) (name : String) : Option String :=
  (r.headers.find? fun h => Text.eqIgnoreAsciiCase h.1 name).map Prod.snd

def isVisible (c : Char) : Bool := (32 ≤ c.toNat && c.toNat < 127) || c = '\t'

/-- The first header with a name, if it is visible ASCII. -/
def Request.plainHeader? (r : Request) (name : String) : Option String :=
  (r.header? name).filter fun s => s.toList.all isVisible

inductive Content where
  | none
  | text (s : String)
  | json (v : Json)

structure Reply where
  status : Nat
  contentType : Option String
  content : Content

namespace Reply

def empty (status : Nat) : Reply := ⟨status, .none, .none⟩

def text (status : Nat) (s : String) : Reply := ⟨status, some "text/plain; charset=utf-8", .text s⟩

def json (status : Nat) (v : Json) : Reply := ⟨status, some "application/json", .json v⟩

/-- The JSON of a document, or a failure if it cannot be written. -/
def document (v : Option Json) : Reply :=
  match v with
  | some v => json 200 v
  | Option.none => text 500 "the document cannot be written"

/-- The reply without its content. -/
def withoutContent (r : Reply) : Reply := { r with content := .none }

end Reply

end Switchboard.Http
