import Switchboard.Inbound.Payload
import Switchboard.Json.Reader

/-!
# TikTok events

An event carries its content as an object, or as the text of one.
-/

namespace Switchboard.Inbound.TikTok

/-- The content of an event; a text that is no JSON has none. -/
def content (event : Json) : Json :=
  match event.field? "content" with
  | some (.str s) => (Json.read? s).getD .null
  | some v => v
  | none => .null

/-- The message without its content. -/
def envelope (received : Time.Instant) (kind : String) (event v : Json) : Message :=
  let sender := ((idAt? v ["from_user", "id"]).or (idAt? v ["from"])).getD ""
  let name := (textAt? v ["from_user", "display_name"]).or (textAt? v ["from_user", "username"])
  { bareMessage .tikTok sender (nameOr .tikTok name) kind
      (secondsOr received ((v.field? "timestamp").or (event.field? "create_time"))) with
    id := (idAt? v ["message", "message_id"]).or (idAt? v ["message_id"])
    details := some (Json.object [
      ("conversation_id", Json.ofText? (idAt? v ["conversation_id"])),
      ("sender_id", .str sender)]) }

def message (received : Time.Instant) (event : Json) : Message :=
  let v := content event
  let kind := ((textAt? v ["message", "type"]).or (textAt? v ["type"])).getD "unknown"
  let m := envelope received kind event v
  let body := (v.field? "message").getD v
  match kind with
  | "text" =>
    { m with
      kind := .text
      text := ((textAt? body ["text"]).or (textAt? body ["text", "body"])).getD "" }
  | "image" | "video" =>
    { m with
      kind := (ContentKind.ofMedia? kind).getD .unknown
      mediaUrl := textAt? body [kind, "url"]
      text := placeholder kind }
  | _ => m

end Switchboard.Inbound.TikTok
