import Switchboard.Catalog
import Switchboard.Decimal.Reading
import Switchboard.Json
import Switchboard.Text.Blank
import Switchboard.Time.Instant

/-!
# Flows

A bot answers by a flow: nodes that say or ask something, and edges from one to the next. What a
node says stands in its data, which is free JSON; the fields that matter are read leniently.
-/

namespace Switchboard

inductive NodeKind where
  | start
  | text
  | media
  | quickReply
  | list
  | location
  | delay
  | condition
  | capture
  | unknown
  deriving DecidableEq, Repr

namespace NodeKind

def all : List NodeKind :=
  [start, text, media, quickReply, list, location, delay, condition, capture, unknown]

def name : NodeKind → String
  | start => "startNode"
  | text => "textMessageNode"
  | media => "mediaMessageNode"
  | quickReply => "quickReplyNode"
  | list => "listMessageNode"
  | location => "locationNode"
  | delay => "delayNode"
  | condition => "conditionNode"
  | capture => "captureInputNode"
  | unknown => "unknown"

/-- The kind with a name; any other name is that of an unknown kind. -/
def ofName (s : String) : NodeKind := (all.find? fun k => k.name == s).getD unknown

@[simp] theorem ofName_name (k : NodeKind) : ofName k.name = k := by cases k <;> decide

/-- Kinds that send a message, and pause before it as if it were typed. -/
def sendsMessage : NodeKind → Bool
  | text | media | quickReply | list => true
  | _ => false

/-- Kinds that may have several edges to choose from. -/
def mayBranch : NodeKind → Bool
  | quickReply | list | condition => true
  | _ => false

end NodeKind

structure Node where
  id : String
  kind : NodeKind
  data : Dictionary Json

/-- An edge may carry the id of the option that leads along it. -/
structure Edge where
  source : String
  target : String
  handle : Option String
  deriving DecidableEq, Repr

structure Flow where
  nodes : List Node
  edges : List Edge

structure Bot where
  id : String
  name : String
  isActive : Bool
  updatedAt : Time.Instant
  flow : Flow

namespace Node

def field? (n : Node) (name : String) : Option Json := n.data.value? name

/-- A field as text: a text that is not blank, or a number. -/
def textField? (n : Node) (name : String) : Option String :=
  match n.field? name with
  | some (.str s) => if Text.isBlank s then none else some s
  | some (.num x) => some x.text
  | _ => none

/-- A field as a number: a number, or a text that holds one. -/
def numberField? (n : Node) (name : String) : Option Float :=
  match n.field? name with
  | some (.num x) => some x.toFloat
  | some (.str s) => Decimal.readFloat? (Text.trim s)
  | _ => none

/-- What the node says, before names are filled in. -/
def body (n : Node) : String :=
  ((n.textField? "content").or (n.textField? "text")).getD ""

/-- Typing is shown unless the node turns it off. -/
def showsTyping (n : Node) : Bool :=
  match n.field? "typingSimulation" with
  | some (.bool false) => false
  | _ => true

end Node

end Switchboard
