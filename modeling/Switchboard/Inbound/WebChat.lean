import Switchboard.Inbound.Payload
import Switchboard.Time.Timestamp

/-!
# Web chat posts

A visitor is known by the session of their widget.
-/

namespace Switchboard.Inbound.WebChat

def message (received : Time.Instant) (v : Json) : Message :=
  let session := (idAt? v ["sessionId"]).getD ""
  let sentAt := ((textAt? v ["timestamp"]).bind Time.Instant.read?).getD received
  let name := nameOr .webChat (textAt? v ["name"])
  let m := { bareMessage .webChat session name "unknown" sentAt with
    id := idAt? v ["messageId"]
    details := some (Json.object [
      ("session_id", .str session),
      ("page_url", Json.ofText? (textAt? v ["pageUrl"]))]) }
  match textAt? v ["text"] with
  | some text => { m with kind := .text, text := text }
  | none => m

end Switchboard.Inbound.WebChat
