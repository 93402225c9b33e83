import Switchboard.Card.Document
import Switchboard.Flow.Document
import Switchboard.Roster
import Switchboard.Yaml.Decoding

/-!
# Seeds

What the service is given at its start: lanes, bots, and perhaps the bot that is to answer.
-/

namespace Switchboard

/-- A bot written in YAML or JSON. -/
def Bot.ofText? (text : String) : Option Bot := Yaml.decode? Bot.read? text

structure Seed where
  lanes : List Lane
  bots : List Bot
  activeBotId : Option String

namespace Seed

variable {δ : Type} [Document δ]

def read? (v : δ) : Option Seed := do
  let f ← Document.record? ["lanes", "bots", "activeBotId"] v
  return ⟨← f.defaulted "lanes" [] (Document.list? Lane.read?),
    ← f.defaulted "bots" [] (Document.list? Bot.read?),
    ← f.optional "activeBotId" Document.text?⟩

/-- A seed written in YAML or JSON. -/
def ofText? (text : String) : Option Seed := Yaml.decode? read? text

/-- The document of a seed; there is none when the time of a bot has no written form. -/
def toJson? (s : Seed) : Option Json := do
  let bots ← s.bots.mapM Bot.toJson?
  return Json.object [
    ("lanes", .arr (s.lanes.map Lane.toJson)),
    ("bots", .arr bots),
    ("activeBotId", Json.ofText? s.activeBotId)]

/-- The desk with the lanes of the seed. -/
def furnish (s : Seed) (d : Desk) : Desk := s.lanes.foldl Desk.putLane d

/-- The roster with the bots of the seed, before one is chosen. -/
def enlist (s : Seed) (r : Roster) : Roster := s.bots.foldl Roster.put r

/-- The roster with the bot of the seed chosen, which must be on it. -/
def appoint (s : Seed) (r : Roster) : Except DeskError Roster :=
  match s.activeBotId with
  | none => .ok r
  | some id => r.choose id

/-- A desk and a roster that are given a seed. -/
def sow (s : Seed) (d : Desk) (r : Roster) : Except DeskError (Desk × Roster) :=
  (s.appoint (s.enlist r)).map fun r => (s.furnish d, r)

end Seed

end Switchboard
