import Switchboard.Desk
import Switchboard.Desk.Identity

/-!
# Messages at the desk

A message is brought to its contact's card in two steps. The first finds the card, or the id and
lane of a new one, and only reads; the second appends the message to whatever card it then finds
under that id, so nothing is lost when another message came first.
-/

namespace Switchboard

namespace Message

/-- The message as a line of conversation. -/
def entry (m : Message) : Entry where
  author := .contact
  text := m.text
  kind := m.kind
  sentAt := m.sentAt
  platform := some m.platform
  mediaUrl := m.mediaUrl
  whatsAppId := if m.platform = .whatsApp then m.id else none

/-- The card with the message on it. The first number a contact writes from is kept. -/
def addTo (m : Message) (now : Time.Instant) (c : Card) : Card :=
  let c := c.append m.entry
  { c with
    updatedAt := Time.later c.updatedAt now
    lastPlatform := some m.platform
    lastKind := some m.kind
    addresses := c.addresses.set m.platform m.sender
    details := match m.details with
      | some v => c.details.set m.platform v
      | none => c.details
    contactNumber := if m.platform.usesPhone then c.contactNumber.or (some m.sender)
      else c.contactNumber
    phone := if m.platform.usesPhone then c.phone.or (some (phoneDigits m.sender)) else c.phone }

/-- The name on a new card. -/
def givenName (m : Message) : String :=
  let name := Text.trim m.contactName
  if name.isEmpty then m.platform.defaultContactName else name

/-- The card of a new contact, before their first message. -/
def blankCard (m : Message) (id : String) (lane : Lane) (now : Time.Instant) : Card where
  id := id
  laneId := lane.id
  contactName := m.givenName
  contactNumber := none
  phone := none
  addresses := PerPlatform.none
  details := PerPlatform.none
  lastMessage := ""
  entries := []
  position := none
  fields := Catalog.empty
  createdAt := now
  updatedAt := now
  lastReadAt := none
  lastPlatform := none
  lastKind := none

end Message

/-- Where a message goes: a card that is there, or one to be filed in a lane. -/
structure Route where
  cardId : String
  lane : Option Lane
  deriving DecidableEq, Repr

/-- The card a message went to, and whether the message is its first. -/
structure Arrival where
  cardId : String
  isNew : Bool
  deriving DecidableEq, Repr

namespace Desk

/-- Finds where a message goes. -/
def route (d : Desk) (keyword : String) (m : Message) : Except DeskError Route :=
  match d.find? m.platform m.sender with
  | some c => .ok ⟨c.id, none⟩
  | none => (d.defaultLane keyword).map fun lane =>
    ⟨contactCardId m.platform m.sender, some lane⟩

/-- Brings a message to where it goes. -/
def deposit (d : Desk) (r : Route) (m : Message) (now : Time.Instant) :
    Except DeskError (Arrival × Desk) :=
  (d.transact r.cardId fun current =>
    match current, r.lane with
    -- another first message may have come since the route was found
    | some c, _ => .ok (m.addTo now c)
    | none, some lane => .ok (m.addTo now (m.blankCard r.cardId lane now))
    | none, none => .error (.cardNotFound r.cardId)).map fun (_, d') =>
      (⟨r.cardId, (d.card? r.cardId).isNone⟩, d')

/-- Brings a message to its contact's card. -/
def receive (d : Desk) (keyword : String) (m : Message) (now : Time.Instant) :
    Except DeskError (Arrival × Desk) :=
  match d.route keyword m with
  | .error e => .error e
  | .ok r => d.deposit r m now

end Desk

end Switchboard
