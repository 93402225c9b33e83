import Switchboard.Inbound.Payload

/-!
# WhatsApp webhooks

A delivery holds entries, changes and values; a value holds messages with the names of their
senders, or reports on messages that were sent.
-/

namespace Switchboard.Inbound.WhatsApp

/-- The values of all changes of all entries. -/
def values (payload : Json) : List Json :=
  (itemsOf payload "entry").flatMap fun entry =>
    (itemsOf entry "changes").filterMap fun change => change.field? "value"

/-- The kinds of content that are files. -/
def mediaKinds : List String := ["image", "video", "audio", "document", "sticker"]

/-- The message without its content. -/
def envelope (received : Time.Instant) (contactName : Option String) (channel : Option Json)
    (kind : String) (message : Json) : Message :=
  let sender := (idAt? message ["from"]).getD ""
  { bareMessage .whatsApp sender (nameOr .whatsApp contactName) kind
      (secondsOr received (message.field? "timestamp")) with
    id := idAt? message ["id"]
    details := some (Json.object [
      ("wa_id", .str sender),
      ("phone_number_id", Json.ofText? (channel.bind fun c => textAt? c ["phone_number_id"])),
      ("display_phone_number",
        Json.ofText? (channel.bind fun c => textAt? c ["display_phone_number"]))]) }

/-- The option that was tapped in a menu. -/
def withInteractive (interactive : Json) (m : Message) : Message :=
  let kind := textAtOr interactive ["type"] ""
  match interactive.field? kind with
  | none => m
  | some tapped =>
    let title := textAtOr tapped ["title"] ""
    { m with
      kind := .text, text := title
      reply := some ⟨kind, (idAt? tapped ["id"]).getD "", title⟩ }

/-- The button that was tapped under a template. -/
def withButton (message : Json) (m : Message) : Message :=
  let title := textAtOr message ["button", "text"] ""
  { m with
    kind := .text, text := title
    reply := some ⟨"button", textAtOr message ["button", "payload"] title, title⟩ }

/-- A place needs both coordinates; its name is its text. -/
def withPlace (place : Json) (m : Message) : Message :=
  match (place.field? "latitude").bind Json.float?, (place.field? "longitude").bind Json.float? with
  | some latitude, some longitude =>
    let name := textAt? place ["name"]
    { m with
      kind := .location
      text := name.getD (placeholder "location")
      place := some ⟨latitude, longitude, name, textAt? place ["address"]⟩ }
  | _, _ => m

/-- A file, with its caption for text. -/
def withMedia (kind : String) (file : Json) (m : Message) : Message :=
  { m with
    kind := (ContentKind.ofMedia? kind).getD m.kind
    mediaUrl := (textAt? file ["link"]).or (textAt? file ["id"])
    text := ((textAt? file ["caption"]).filter fun s => !Text.isBlank s).getD (placeholder kind) }

/-- One message, with the name of its sender and the number it was sent to. -/
def message (received : Time.Instant) (contactName : Option String) (channel : Option Json)
    (v : Json) : Message :=
  let kind := textAtOr v ["type"] "unknown"
  let m := envelope received contactName channel kind v
  match kind with
  | "text" => { m with kind := .text, text := textAtOr v ["text", "body"] "" }
  | "interactive" => withInteractive (partOf v "interactive") m
  | "button" => withButton v m
  | "location" => withPlace (partOf v "location") m
  | _ => if mediaKinds.contains kind then withMedia kind (partOf v kind) m else m

/-- The name of a message's sender: that of the contact with the sender's id, else of the first. -/
def senderName? (contacts : List Json) (v : Json) : Option String :=
  let sender := textAt? v ["from"]
  ((contacts.find? fun c => textAt? c ["wa_id"] == sender).or contacts.head?).bind fun c =>
    textAt? c ["profile", "name"]

/-- All messages of a delivery. -/
def messages (received : Time.Instant) (payload : Json) : List Message :=
  (values payload).flatMap fun value =>
    (itemsOf value "messages").map fun v =>
      message received (senderName? (itemsOf value "contacts") v) (value.field? "metadata") v

/-- The contacts who read what was sent to them. -/
def readers (payload : Json) : List String :=
  (values payload).flatMap fun value =>
    (itemsOf value "statuses").filterMap fun status =>
      if textAt? status ["status"] = some "read" then idAt? status ["recipient_id"] else none

end Switchboard.Inbound.WhatsApp
