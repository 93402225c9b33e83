import Switchboard.Desk

/-!
# Changes to a card

Each change touches the part of the card that it is for, and the time of the last change.
-/

namespace Switchboard.Desk

/-- Notes that the contact has read what was sent, and tells on which card. -/
def markRead (d : Desk) (p : Platform) (sender : String) (now : Time.Instant) :
    Except DeskError (Option String × Desk) :=
  match d.find? p sender with
  | none => .ok (none, d)
  | some c =>
    (d.change c.id now fun c => { c with lastReadAt := some now }).map fun (c, d) => (some c.id, d)

def setPosition (d : Desk) (id : String) (p : Position) (now : Time.Instant) :
    Except DeskError Desk :=
  (d.change id now fun c => { c with position := some p }).map Prod.snd

/-- A line of an operator or bot, on the platform the contact last wrote from. -/
def outboundEntry (c : Card) (author : Author) (text : String) (now : Time.Instant) : Entry where
  author := author
  text := text
  kind := .text
  sentAt := now
  platform := c.lastPlatform
  mediaUrl := none
  whatsAppId := none

/-- Appends a line of an operator or bot. -/
def appendOutbound (d : Desk) (id : String) (author : Author) (text : String) (now : Time.Instant) :
    Except DeskError (Card × Desk) :=
  d.change id now fun c => c.append (outboundEntry c author text now)

/-- Keeps what was learned under a name. -/
def learn (d : Desk) (id name value : String) (now : Time.Instant) : Except DeskError Desk :=
  (d.change id now fun c => { c with fields := c.fields.set name value }).map Prod.snd

/-- Changes the contact's name, unless the new one is blank. -/
def rename (d : Desk) (id name : String) (now : Time.Instant) : Except DeskError Desk :=
  let name := Text.trim name
  if name.isEmpty then .ok d
  else (d.change id now fun c => { c with contactName := name }).map Prod.snd

end Switchboard.Desk
