import Switchboard.Desk.Inbound
import Switchboard.Service.Fault
import Switchboard.Service.Settings

/-!
# Taking in messages

A message is brought to its contact's card. If it is a text, the bot that is active answers it, on
the platform it came from. What goes wrong with the bot is counted, but does not concern the
platform that delivered the message.
-/

namespace Switchboard.Service

/-- What the service is set up with. -/
structure Setup where
  rules : TurnRules
  laneKeyword : String
  introductions : List Introduction
  secrets : Secrets
  channels : PerPlatform Channel
  clock : Clock

/-- What happened to a message. -/
structure Report where
  cardId : String
  isNew : Bool
  outcome : Option Outcome
  deriving DecidableEq, Repr

def Report.toJson (r : Report) : Json :=
  Json.object ([("cardId", .str r.cardId), ("isNew", .bool r.isNew)]
    ++ Json.present [("botOutcome", r.outcome.map fun o => .str o.name)])

/-- Whether a conversation has to begin anew: on a new card, and on platforms that use telephone
numbers also where it has no position or a stale one. -/
def mustRestart (c : Card) (p : Platform) (isNew : Bool) (now : Time.Instant) (window : Span) :
    Bool :=
  isNew || (p.usesPhone &&
    match c.position with
    | none => true
    | some position => position.isStale now window)

end Switchboard.Service

namespace Switchboard

open Service

namespace World

/-- Brings a message to its contact's card and counts new cards. -/
def receive (w : World) (clock : Clock) (keyword : String) (m : Message) :
    Except DeskError Arrival × World :=
  match w.onDesk clock fun d now => d.receive keyword m now with
  | (.ok arrival, w) =>
    (.ok arrival, if arrival.isNew then w.count (.cardCreated m.platform) else w)
  | (.error e, w) => (.error e, w)

/-- The turn of a bot on a message. -/
def turnFor (w : World) (s : Setup) (m : Message) (arrival : Arrival) (b : Bot) (c : Card) :
    Turn where
  bot := b
  recipient := (c.recipient? m.platform).getD m.sender
  card := c
  text := m.text
  messageId := m.id
  restart := mustRestart c m.platform arrival.isNew (s.clock w.readings) s.rules.staleness

/-- Lets the active bot answer a message, if there is one and the platform can be reached. -/
def answer (w : World) (s : Setup) (m : Message) (arrival : Arrival) : Option Outcome × World :=
  match w.roster.active?, s.channels m.platform, w.desk.card? arrival.cardId with
  | some b, some channel, some c =>
    let t := w.turnFor s m arrival b c
    match w.tick.runTurn ⟨channel, m.platform, s.clock⟩ s.rules s.introductions t with
    | (.ok outcome, w) => (some outcome, w)
    | (.error (.delivery _), w) => (none, w.count (.deliveryFailed m.platform))
    | (.error (.desk _), w) => (none, w)
  | _, _, _ => (none, w)

/-- Takes in a message. -/
def ingest (w : World) (s : Setup) (m : Message) : Except Fault Report × World :=
  if Text.isBlank m.sender then (.error (.badRequest "message has no sender id"), w) else
  match (w.count (.ingressed m.platform)).receive s.clock s.laneKeyword m with
  | (.error e, w) => (.error (.desk e), w)
  | (.ok arrival, w) =>
    let (outcome, w) := if m.kind = .text then w.answer s m arrival else (none, w)
    (.ok ⟨arrival.cardId, arrival.isNew, outcome⟩, w)

/-- Takes in messages one after the other. Those without a sender are passed over; any other fault
ends it. -/
def ingestAll (w : World) (s : Setup) : List Message → Except Fault (List Report) × World
  | [] => (.ok [], w)
  | m :: ms =>
    match w.ingest s m with
    | (.ok report, w) =>
      match w.ingestAll s ms with
      | (.ok reports, w) => (.ok (report :: reports), w)
      | (.error e, w) => (.error e, w)
    -- only a message without a sender is a bad request
    | (.error (.badRequest _), w) => w.ingestAll s ms
    | (.error e, w) => (.error e, w)

/-- Notes of each contact that they have read what was sent, and counts the cards. -/
def markAllRead (w : World) (s : Setup) (p : Platform) : List String → Except Fault Nat × World
  | [] => (.ok 0, w)
  | sender :: senders =>
    match w.onDesk s.clock fun d now => d.markRead p sender now with
    | (.error e, w) => (.error (.desk e), w)
    | (.ok found, w) =>
      match w.markAllRead s p senders with
      | (.ok n, w) => (.ok (if found.isSome then n + 1 else n), w)
      | (.error e, w) => (.error e, w)

end World

end Switchboard
