import Switchboard.Desk.Changes
import Switchboard.Dialogue.Plan
import Switchboard.World

/-!
# Turns carried out

The actions of a plan are carried out one after the other, on the contact's card and on the platform
they wrote from. The first failure ends the turn; a message that cannot be shown as read is none.
-/

namespace Switchboard

inductive TurnError where
  | delivery (e : DeliveryError)
  | desk (e : DeskError)
  deriving DecidableEq, Repr

def TurnError.message : TurnError → String
  | delivery e => e.message
  | desk e => e.message

/-- What a turn is carried out with. -/
structure Stage where
  channel : Channel
  platform : Platform
  clock : Clock

namespace World

/-- Changes the desk without a result. -/
def changeDesk (w : World) (clock : Clock) (act : Desk → Time.Instant → Except DeskError Desk) :
    Except TurnError Unit × World :=
  let (result, w) := w.onDesk clock fun d now => (act d now).map fun d => ((), d)
  (result.mapError TurnError.desk, w)

/-- Carries out one action of a turn. -/
def act (w : World) (s : Stage) (t : Turn) : Action → Except TurnError Unit × World
  | .showRead id => (.ok (), (w.attempt s.channel s.platform (.read id)).2)
  | .pause span => (.ok (), w.pause span)
  | .send call =>
    match w.attempt s.channel s.platform call with
    | (.ok _, w) => (.ok (), w)
    | (.error e, w) => (.error (.delivery e), w)
  | .note text =>
    w.changeDesk s.clock fun d now =>
      (d.appendOutbound t.card.id (.bot (some t.bot.id)) text now).map Prod.snd
  | .standAt node =>
    w.changeDesk s.clock fun d now => d.setPosition t.card.id (.activeAt node now) now
  | .finish => w.changeDesk s.clock fun d now => d.setPosition t.card.id (.completedAt now) now
  | .learn name value => w.changeDesk s.clock fun d now => d.learn t.card.id name value now
  | .rename name => w.changeDesk s.clock fun d now => d.rename t.card.id name now
  | .countStep kind => (.ok (), w.count (.botStep kind))

/-- Carries out actions until one fails. -/
def actAll (w : World) (s : Stage) (t : Turn) : List Action → Except TurnError Unit × World
  | [] => (.ok (), w)
  | a :: as =>
    match w.act s t a with
    | (.ok _, w) => w.actAll s t as
    | (.error e, w) => (.error e, w)

/-- Carries out a turn and counts how it ended. -/
def runTurn (w : World) (s : Stage) (rules : TurnRules) (introductions : List Introduction)
    (t : Turn) : Except TurnError Outcome × World :=
  let plan := t.plan rules introductions (s.clock w.readings)
  match w.tick.actAll s t plan.actions with
  | (.ok _, w) => (.ok plan.outcome, w.count (.botTurn plan.outcome.name))
  | (.error e, w) => (.error e, w.count (.botTurn "failed"))

end World

end Switchboard
