import Switchboard.Catalog
import Switchboard.Message

/-!
# Conversation cards

One card holds all that is known of one contact: how to reach them on each platform, the history of
the conversation, where an automated conversation stands, and what was learned from it. Cards are
filed in lanes.
-/

namespace Switchboard

/-- A lane of cards. Lanes with an order come first. -/
structure Lane where
  id : String
  name : String
  order : Option Int
  deriving DecidableEq, Repr

/-- Who wrote a line of a conversation. An operator or a bot may be named by an id. -/
inductive Author where
  | contact
  | agent (id : Option String)
  | bot (id : Option String)
  deriving DecidableEq, Repr

/-- A line of a conversation. -/
structure Entry where
  author : Author
  text : String
  kind : ContentKind
  sentAt : Time.Instant
  platform : Option Platform
  mediaUrl : Option String
  /-- The name that WhatsApp gave the message. -/
  whatsAppId : Option String
  deriving DecidableEq, Repr

inductive Progress where
  | active
  | completed
  deriving DecidableEq, Repr

/-- Where an automated conversation stands: at a node of its flow, or at its end. -/
structure Position where
  progress : Progress
  node : Option String
  touchedAt : Time.Instant
  deriving DecidableEq, Repr

structure Card where
  id : String
  laneId : String
  contactName : String
  /-- The number a contact first wrote from, as given. -/
  contactNumber : Option String
  /-- The digits of that number. -/
  phone : Option String
  /-- The contact's address on each platform. -/
  addresses : PerPlatform String
  /-- What each platform last said about the contact. -/
  details : PerPlatform Json
  lastMessage : String
  entries : List Entry
  position : Option Position
  /-- What an automated conversation learned, by name. -/
  fields : Dictionary String
  createdAt : Time.Instant
  updatedAt : Time.Instant
  lastReadAt : Option Time.Instant
  lastPlatform : Option Platform
  lastKind : Option ContentKind

/-- A span of time in nanoseconds. -/
abbrev Span := Int

namespace Position

def activeAt (node : String) (now : Time.Instant) : Position := ⟨.active, some node, now⟩

def completedAt (now : Time.Instant) : Position := ⟨.completed, none, now⟩

/-- A position is stale once the window has passed since it was last touched. -/
def isStale (p : Position) (now : Time.Instant) (window : Span) : Bool :=
  decide (window ≤ now.nanos - p.touchedAt.nanos)

end Position

namespace Card

/-- Appends a line. The card shows its text, and is at least as recent as the line. -/
def append (c : Card) (e : Entry) : Card :=
  { c with
    lastMessage := e.text
    updatedAt := Time.later e.sentAt c.updatedAt
    entries := c.entries ++ [e] }

/-- The address for messages on a platform: the contact's own there, or the telephone number on
platforms that use one. -/
def recipient? (c : Card) (p : Platform) : Option String :=
  match c.addresses p with
  | some address => some address
  | none => if p.usesPhone then c.contactNumber else none

/-- The position that a conversation goes on from: active and not stale. -/
def livePosition? (c : Card) (now : Time.Instant) (window : Span) : Option Position :=
  c.position.filter fun p => p.progress == .active && !p.isStale now window

@[simp] theorem append_entries (c : Card) (e : Entry) :
    (c.append e).entries = c.entries ++ [e] := rfl

@[simp] theorem append_lastMessage (c : Card) (e : Entry) : (c.append e).lastMessage = e.text := rfl

end Card

end Switchboard
