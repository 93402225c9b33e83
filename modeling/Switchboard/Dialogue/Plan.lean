import Switchboard.Dialogue.Answer
import Switchboard.Dialogue.Introduction
import Switchboard.Dialogue.Placeholder
import Switchboard.Dialogue.Selection
import Switchboard.Dialogue.Tempo
import Switchboard.Dialogue.Variable
import Switchboard.Flow.Graph
import Switchboard.Outbound.Call

/-!
# Plans of turns

A turn is what a bot does on a reply. The flow, the card and the reply decide all of it beforehand:
a list of actions, and how the turn ends if all of them succeed. The reply goes to the node where
the conversation stands; from there the flow is walked until a node waits for a reply, the flow
ends, or the turn has taken its number of steps.
-/

namespace Switchboard

inductive Action where
  | showRead (messageId : String)
  | pause (span : Span)
  | send (call : Call)
  /-- Writes what was sent on the card. -/
  | note (text : String)
  | standAt (node : String)
  | finish
  | learn (name value : String)
  | rename (name : String)
  | countStep (kind : NodeKind)

/-- How a turn ends. -/
inductive Outcome where
  /-- A node waits for a reply. -/
  | suspended (node : String)
  /-- The flow has come to its end. -/
  | completed
  /-- The reply is not what a node asked for. -/
  | invalidAnswer (node : String)
  /-- The turn has taken its number of steps. -/
  | stepLimit (node : String)
  /-- The flow leads to no node. -/
  | idle
  deriving DecidableEq, Repr

def Outcome.name : Outcome → String
  | suspended _ => "suspended"
  | completed => "completed"
  | invalidAnswer _ => "invalid_input"
  | stepLimit _ => "step_limit"
  | idle => "idle"

structure Plan where
  actions : List Action
  outcome : Outcome

def Plan.after (actions : List Action) (p : Plan) : Plan := ⟨actions ++ p.actions, p.outcome⟩

structure TurnRules where
  /-- The age at which a conversation begins anew. -/
  staleness : Span
  /-- The number of nodes visited in a turn. -/
  maxSteps : Nat
  /-- The pause before a reply is taken up. -/
  settle : Span
  deriving DecidableEq, Repr

def TurnRules.standard : TurnRules := ⟨24 * 3600 * 1000 * millisecond, 15, 500 * millisecond⟩

/-- A reply for a bot. The card is as it stands after the reply was written on it. -/
structure Turn where
  bot : Bot
  recipient : String
  card : Card
  text : String
  messageId : Option String
  /-- Begin anew, wherever the conversation stands. -/
  restart : Bool

namespace Node

/-- The pause before a message, as if it were typed. -/
def typing (n : Node) (text : String) : List Action :=
  if n.kind.sendsMessage && n.showsTyping then [.pause (typingPause text)] else []

/-- Sends a text and writes it on the card. -/
def say (recipient text : String) : List Action := [.send (.text recipient text), .note text]

def sayUnlessBlank (recipient text : String) : List Action :=
  if Text.isBlank text then [] else say recipient text

/-- The text on the button that opens a list. -/
def listLabel (n : Node) : String := (n.textField? "buttonText").getD "Ver opciones"

def mediaActions (n : Node) (recipient caption : String) : List Action :=
  match n.textField? "url" with
  | none => []
  | some url =>
    [.send (.media recipient url caption (MediaKind.detect (n.textField? "mediaType") url)),
      .note ("[Archivo] " ++ caption)]

def locationActions (n : Node) (recipient : String) : List Action :=
  match n.numberField? "latitude" with
  | none => []
  | some latitude =>
    let name := (n.textField? "name").getD ""
    [.send (.location recipient latitude ((n.numberField? "longitude").getD 0.0) name
        ((n.textField? "address").getD "")),
      .note (if name.isEmpty then "[Ubicación]" else "[Ubicación] " ++ name)]

/-- Whether a node waits for a reply: it asks for an answer, or offers options. -/
def waits (n : Node) : Bool :=
  match n.kind with
  | .capture => true
  | .quickReply => !n.buttons.isEmpty
  | .list => !n.sections.isEmpty
  | _ => false

/-- What a node does when it is reached. -/
def actions (n : Node) (f : Fillings) (recipient : String) : List Action :=
  let text := f.fill n.body
  match n.kind with
  | .text => n.typing text ++ sayUnlessBlank recipient text
  | .media =>
    let caption := f.fill ((n.textField? "caption").getD n.body)
    n.typing caption ++ n.mediaActions recipient caption
  | .quickReply =>
    n.typing text ++
      match n.buttons with
      | [] => sayUnlessBlank recipient text
      | b :: bs => [.send (.buttons recipient text (b :: bs)), .note text]
  | .list =>
    n.typing text ++
      match n.sections with
      | [] => sayUnlessBlank recipient text
      | s :: ss => [.send (.list recipient text n.listLabel (s :: ss)), .note text]
  | .location => n.locationActions recipient
  | .delay => [.pause n.wait]
  | _ => []

end Node

/-- Where a conversation goes on after a node that does not wait: a condition counts as true. -/
def Graph.next? (g : Graph) (n : Node) : Option String :=
  if n.kind = .condition then (g.targetOf? n.id "true").or (g.firstTarget? n.id)
  else g.firstTarget? n.id

/-- Walks the flow from a node for at most `steps` nodes; `last` is the node visited before. -/
def Graph.walk (g : Graph) (f : Fillings) (recipient : String) :
    Nat → Option String → Option String → Plan
  | _, _, none => ⟨[.finish], .completed⟩
  -- the limit is reached before the next node is looked up, so it need not be in the flow
  | 0, last, some id => ⟨[], .stepLimit (last.getD id)⟩
  | steps + 1, _, some id =>
    match g.node? id with
    | none => ⟨[], .idle⟩
    | some n =>
      let visit := .standAt n.id :: .countStep n.kind :: n.actions f recipient
      if n.waits then ⟨visit, .suspended n.id⟩
      else (g.walk f recipient steps (some n.id) (g.next? n)).after visit

/-- What is said about an answer that was not accepted, if the node does not tell. -/
def defaultRefusal : String := "Respuesta inválida. Por favor, inténtalo de nuevo."

/-- What an accepted answer to a question teaches: its name, its value, and whether it is the
contact's name. -/
structure Lesson where
  name : String
  value : String
  isContactName : Bool
  deriving DecidableEq, Repr

/-- The lesson of an answer, if it is what the node asked for. -/
def Node.lesson? (n : Node) (introductions : List Introduction) (reply : String) : Option Lesson :=
  let reply := Text.trim reply
  if (AnswerKind.read (n.textField? "inputType")).accepts reply then
    let name := n.captureName
    if isNameVariable name then some ⟨name, givenName introductions reply, true⟩
    else some ⟨name, reply, false⟩
  else none

def Lesson.actions (l : Lesson) : List Action :=
  .learn l.name l.value :: if l.isContactName then [.rename l.value] else []

/-- The values a turn goes on with after a lesson. -/
def Fillings.add (f : Fillings) (l : Lesson) : Fillings :=
  { f with fields := f.fields.set l.name l.value }

/-- The option a reply selects at a node. -/
def Node.selected? (n : Node) (reply : String) : Option String :=
  match n.kind with
  | .quickReply => selectedButton? n.buttons reply
  | .list => selectedRow? n.sections reply
  | _ => none

/-- Where a reply at a node leads: along the only edge, or the edge of the option it selects, or
else along the first edge. There is no such place at the end of the flow. -/
def Graph.replyTarget? (g : Graph) (n : Node) (id reply : String) : Option String :=
  match g.outgoing id with
  | [] => none
  | [e] => some e.target
  | e :: _ => some (((n.selected? reply).bind (g.targetOf? id)).getD e.target)

namespace Turn

/-- The plan from a node on. -/
def forward (t : Turn) (rules : TurnRules) (f : Fillings) (first : Option String) : Plan :=
  (Graph.ofFlow t.bot.flow).walk f t.recipient rules.maxSteps none first

/-- The plan for a reply at the node where the conversation stands. -/
def replyAt (t : Turn) (rules : TurnRules) (introductions : List Introduction) (id : String) :
    Plan :=
  let g := Graph.ofFlow t.bot.flow
  let f := Fillings.ofCard t.card
  match g.node? id with
  | none => ⟨[], .idle⟩
  | some n =>
    if n.kind = .capture then
      match n.lesson? introductions t.text with
      -- the conversation stays where it stands, and the question may be answered again
      | none =>
        ⟨Node.say t.recipient ((n.textField? "errorMessage").getD defaultRefusal),
          .invalidAnswer n.id⟩
      | some l => (t.forward rules (f.add l) (g.replyTarget? n id t.text)).after l.actions
    else t.forward rules f (g.replyTarget? n id t.text)

/-- What comes before a reply is taken up: it is shown as read, and there is a pause. -/
def greeting (t : Turn) (rules : TurnRules) : List Action :=
  (t.messageId.map Action.showRead).toList ++ [.pause rules.settle]

/-- The node at which the conversation goes on, unless it begins anew. -/
def resumesAt? (t : Turn) (rules : TurnRules) (now : Time.Instant) : Option String :=
  if t.restart then none else (t.card.livePosition? now rules.staleness).bind Position.node

/-- The plan of a turn. -/
def plan (t : Turn) (rules : TurnRules) (introductions : List Introduction) (now : Time.Instant) :
    Plan :=
  match t.resumesAt? rules now with
  | some id => (t.replyAt rules introductions id).after (t.greeting rules)
  | none =>
    match (Graph.ofFlow t.bot.flow).opening? with
    | some first => t.forward rules (Fillings.ofCard t.card) (some first)
    | none => ⟨[], .idle⟩

end Turn

end Switchboard
