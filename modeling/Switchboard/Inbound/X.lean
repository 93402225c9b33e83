import Switchboard.Inbound.Payload

/-!
# X direct messages

A delivery holds events and the users they speak of. What the account itself sent is left out.
-/

namespace Switchboard.Inbound.X

/-- The kind of an attached file; moving pictures are pictures. -/
def mediaKind (kind : String) : ContentKind :=
  if kind = "photo" ∨ kind = "animated_gif" then .image
  else (ContentKind.ofMedia? kind).getD .unknown

/-- The message without its content. -/
def envelope (received : Time.Instant) (sender : String) (user : Option Json)
    (event create : Json) : Message :=
  let screenName := user.bind fun u => textAt? u ["screen_name"]
  let name := (user.bind fun u => textAt? u ["name"]).or screenName
  { bareMessage .x sender (nameOr .x name) "unknown"
      (millisOr received (event.field? "created_timestamp")) with
    id := idAt? event ["id"]
    details := some (Json.object [
      ("sender_id", .str sender),
      ("recipient_id", Json.ofText? (idAt? create ["target", "recipient_id"])),
      ("screen_name", Json.ofText? screenName)]) }

def withContent (data : Json) (m : Message) : Message :=
  let text := textAtOr data ["text"] ""
  match data.at? ["attachment", "media"], data.field? "text" with
  | some file, _ =>
    { m with
      kind := mediaKind (textAtOr file ["type"] "image")
      mediaUrl := textAt? file ["media_url_https"]
      text := if text.isEmpty then m.text else text }
  | none, some _ => { m with kind := .text, text := text }
  | none, none => m

/-- The message of an event, unless the account itself sent it. -/
def message? (received : Time.Instant) (own : Option String) (users : Option Json) (event : Json) :
    Option Message :=
  if textAt? event ["type"] ≠ some "message_create" then none else
  let create := partOf event "message_create"
  let sender := (idAt? create ["sender_id"]).getD ""
  if own = some sender then none else
  some (withContent (partOf create "message_data")
    (envelope received sender (users.bind fun u => u.field? sender) event create))

/-- All messages of a delivery. -/
def messages (received : Time.Instant) (payload : Json) : List Message :=
  (itemsOf payload "direct_message_events").filterMap
    (message? received (idAt? payload ["for_user_id"]) (payload.field? "users"))

end Switchboard.Inbound.X
