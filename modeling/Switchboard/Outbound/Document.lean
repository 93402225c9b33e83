import Switchboard.Dialogue.Plan
import Switchboard.Desk.Inbound
import Switchboard.Flow.Document

/-!
# Calls and outcomes as documents

The fields of calls, of arrivals at the desk and of outcomes of turns in JSON. A coordinate that is
not finite is a text.
-/

namespace Switchboard

/-- A number; one that is not finite is named. -/
def Json.ofAnyFloat (x : Float) : Json :=
  if x.isNaN then .str "NaN"
  else if x.isInf then .str (if x < 0 then "-inf" else "inf")
  else .num (.float x)

namespace Call

/-- What kind of call it is, and its other fields. -/
def members : Call → String × List (String × Json)
  | .text recipient words => ("text", [("to", .str recipient), ("text", .str words)])
  | .media recipient url caption kind =>
    ("media", [("to", .str recipient), ("url", .str url), ("caption", .str caption),
      ("kind", .str kind.name)])
  | .buttons recipient words options =>
    ("buttons", [("to", .str recipient), ("text", .str words),
      ("buttons", .arr (options.map Button.toJson))])
  | .list recipient words label sections =>
    ("list", [("to", .str recipient), ("text", .str words), ("label", .str label),
      ("sections", .arr (sections.map Section.toJson))])
  | .location recipient latitude longitude name address =>
    ("location", [("to", .str recipient), ("latitude", Json.ofAnyFloat latitude),
      ("longitude", Json.ofAnyFloat longitude), ("name", .str name), ("address", .str address)])
  | .read id => ("read", [("message_id", .str id)])

def toJson (c : Call) : Json := Json.object (("call", .str c.members.1) :: c.members.2)

end Call

def Arrival.toJson (a : Arrival) : Json :=
  Json.object [("success", .bool true), ("cardId", .str a.cardId), ("isNew", .bool a.isNew)]

namespace Outcome

/-- The node at which a turn ends. -/
def node? : Outcome → Option String
  | suspended node | invalidAnswer node | stepLimit node => some node
  | _ => none

def toJson (o : Outcome) : Json :=
  Json.object (("kind", .str o.name) :: Json.present [("node", o.node?.map Json.str)])

end Outcome

end Switchboard
