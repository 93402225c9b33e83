import Switchboard.Desk
import Switchboard.Flow

/-!
# The roster of bots

All bots, and which of them answers. Until one is chosen, the bot that was last changed among those
that are flagged active answers.
-/

namespace Switchboard

structure Roster where
  bots : Catalog Bot Bot.id
  chosen : Option String

/-- Whether a bot was changed after another; of bots changed together the one with the greater id.
-/
def Bot.newerThan (a b : Bot) : Bool :=
  b.updatedAt.nanos < a.updatedAt.nanos
    || (b.updatedAt.nanos == a.updatedAt.nanos && b.id < a.id)

/-- The bot that was changed last. -/
def newest? : List Bot → Option Bot
  | [] => none
  | b :: bs =>
    match newest? bs with
    | none => some b
    | some c => some (if c.newerThan b then c else b)

namespace Roster

def empty : Roster := ⟨Catalog.empty, none⟩

def bot? (r : Roster) (id : String) : Option Bot := r.bots.get? id

def put (r : Roster) (b : Bot) : Roster := { r with bots := r.bots.put b }

/-- Chooses a bot; it alone is then flagged active. -/
def choose (r : Roster) (id : String) : Except DeskError Roster :=
  match r.bot? id with
  | none => .error (.botNotFound id)
  | some _ =>
    .ok ⟨r.bots.update (fun b => { b with isActive := b.id == id }) fun _ => rfl, some id⟩

/-- The bot that answers. -/
def active? (r : Roster) : Option Bot :=
  match r.chosen.bind r.bot? with
  | some b => some b
  | none => newest? (r.bots.items.filter Bot.isActive)

end Roster

end Switchboard
