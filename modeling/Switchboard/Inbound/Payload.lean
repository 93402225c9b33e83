import Switchboard.Message
import Switchboard.Decimal.Reading
import Switchboard.Text.Blank

/-!
# Webhook payloads

What the readers of all platforms share: texts, ids and times at a path of a payload, and the
message that stands for content that is not understood. A part that is missing or of the wrong type
counts as absent; no payload is refused.
-/

namespace Switchboard.Inbound

def textAt? (v : Json) (path : List String) : Option String := (v.at? path).bind Json.text?

def textAtOr (v : Json) (path : List String) (fallback : String) : String :=
  (textAt? v path).getD fallback

/-- An id, which platforms give as text or as number; the empty text is none. -/
def idAt? (v : Json) (path : List String) : Option String :=
  ((v.at? path).bind Json.scalarText?).filter fun s => !s.isEmpty

/-- The value of a member, or null. -/
def partOf (v : Json) (name : String) : Json := (v.field? name).getD .null

/-- The items of an array member, or none. -/
def itemsOf (v : Json) (name : String) : List Json := (partOf v name).items

/-- A whole number, or a text that holds one. -/
def integer? : Json → Option Int
  | .num n => n.int64?
  | .str s => Decimal.readInt64? (Text.trim s)
  | _ => none

/-- A time in seconds, or the time of arrival. -/
def secondsOr (received : Time.Instant) (v : Option Json) : Time.Instant :=
  ((v.bind integer?).bind Time.Instant.ofUnixSeconds?).getD received

/-- A time in milliseconds, or the time of arrival. -/
def millisOr (received : Time.Instant) (v : Option Json) : Time.Instant :=
  ((v.bind integer?).bind Time.Instant.ofUnixMillis?).getD received

/-- The given name without blanks around it, or the name of contacts who give none. -/
def nameOr (platform : Platform) (name : Option String) : String :=
  ((name.map Text.trim).filter fun s => !s.isEmpty).getD platform.defaultContactName

/-- A message of which no more is known than its sender and the kind of its content. -/
def bareMessage (platform : Platform) (sender name kind : String) (sentAt : Time.Instant) :
    Message where
  platform := platform
  sender := sender
  contactName := name
  text := placeholder kind
  kind := .unknown
  sentAt := sentAt
  id := none
  mediaUrl := none
  details := none
  reply := none
  place := none

end Switchboard.Inbound
