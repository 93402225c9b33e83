import Switchboard.Outbound.Call
import Switchboard.Roster

/-!
# The running service

What changes while messages are handled: the desk and the roster, and beside them what was asked of
the platforms, how long was waited, and what was counted.
-/

namespace Switchboard

/-- A call as it was made on a platform, and whether it was carried out. -/
structure Attempt where
  platform : Platform
  call : Call
  accepted : Bool

/-- What reaches a platform. Its answer to a call may depend on the calls made before. -/
abbrev Channel := List Call → Call → Except DeliveryError Receipt

/-- The time at each reading of the clock. -/
abbrev Clock := Nat → Time.Instant

/-- What is counted. -/
inductive Count where
  | ingressed (p : Platform)
  | cardCreated (p : Platform)
  | botStep (kind : NodeKind)
  | botTurn (outcome : String)
  | deliveryFailed (p : Platform)
  deriving DecidableEq, Repr

namespace Count

/-- The name of a counter with its label. -/
def labelled (name label value : String) : String :=
  name ++ "\x7b" ++ label ++ "=" ++ value ++ "\x7d"

def label : Count → String
  | ingressed p => labelled "hub_messages_ingressed_total" "platform" p.name
  | cardCreated p => labelled "hub_cards_created_total" "platform" p.name
  | botStep kind => labelled "hub_bot_steps_total" "node_type" kind.name
  | botTurn outcome => labelled "hub_bot_turns_total" "outcome" outcome
  | deliveryFailed p => labelled "hub_adapter_errors_total" "platform" p.name

/-- The total of each counter. -/
def totals (counts : List Count) : Dictionary Nat :=
  counts.foldl (fun d c => d.set c.label ((d.value? c.label).getD 0 + 1)) Catalog.empty

end Count

structure World where
  desk : Desk
  roster : Roster
  attempts : List Attempt
  pauses : List Span
  tally : List Count
  /-- How often the clock was read. -/
  readings : Nat

namespace World

def start (desk : Desk) (roster : Roster) : World := ⟨desk, roster, [], [], [], 0⟩

/-- Goes on after a reading of the clock. -/
def tick (w : World) : World := { w with readings := w.readings + 1 }

def count (w : World) (c : Count) : World := { w with tally := w.tally ++ [c] }

def pause (w : World) (span : Span) : World := { w with pauses := w.pauses ++ [span] }

/-- The calls made on a platform so far. -/
def callsOn (w : World) (p : Platform) : List Call :=
  (w.attempts.filter fun a => a.platform == p).map Attempt.call

/-- Makes a call on a platform. -/
def attempt (w : World) (channel : Channel) (p : Platform) (call : Call) :
    Except DeliveryError Receipt × World :=
  let answer := channel (w.callsOn p) call
  (answer, { w with attempts := w.attempts ++ [⟨p, call, answer.isOk⟩] })

/-- Changes the desk at the next reading of the clock; a refused change leaves it as it is. -/
def onDesk {α : Type} (w : World) (clock : Clock)
    (act : Desk → Time.Instant → Except DeskError (α × Desk)) : Except DeskError α × World :=
  match act w.desk (clock w.readings) with
  | .ok (x, d) => (.ok x, { w.tick with desk := d })
  | .error e => (.error e, w.tick)

end World

end Switchboard
