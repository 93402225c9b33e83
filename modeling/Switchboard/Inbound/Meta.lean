import Switchboard.Inbound.Payload

/-!
# Messenger and Instagram webhooks

A delivery holds entries; an entry holds direct messages, and changes that may be comments. What the
page itself said is echoed and left out.
-/

namespace Switchboard.Inbound.Meta

def platform (payload : Json) : Platform :=
  if textAt? payload ["object"] = some "instagram" then .instagram else .messenger

/-- The message without its content. -/
def envelope (received : Time.Instant) (p : Platform) (event : Json) : Message :=
  let sender := (idAt? event ["sender", "id"]).getD ""
  { bareMessage p sender (nameOr p none) "unknown"
      (millisOr received (event.field? "timestamp")) with
    details := some (Json.object [
      ("sender_id", .str sender),
      ("recipient_id", Json.ofText? (idAt? event ["recipient", "id"])),
      ("kind", .str "message")]) }

/-- A button of a template was tapped. -/
def withPostback (postback : Json) (m : Message) : Message :=
  let title := textAtOr postback ["title"] ""
  { m with
    id := idAt? postback ["mid"]
    kind := .text, text := title
    reply := some ⟨"postback", textAtOr postback ["payload"] title, title⟩ }

/-- A text, which may be that of a quick reply. -/
def withText (content : Json) (text : String) (m : Message) : Message :=
  { m with
    kind := .text, text := text
    reply := (textAt? content ["quick_reply", "payload"]).map fun id => ⟨"quick_reply", id, text⟩ }

/-- The first of the attached files. -/
def withAttachment (file : Json) (m : Message) : Message :=
  let kind := textAtOr file ["type"] "unknown"
  { m with
    kind := (ContentKind.ofMedia? kind).getD m.kind
    mediaUrl := textAt? file ["payload", "url"]
    text := placeholder kind }

def withContent (content : Json) (m : Message) : Message :=
  let m := { m with id := idAt? content ["mid"] }
  match textAt? content ["text"], (itemsOf content "attachments").head? with
  | some text, _ => withText content text m
  | none, some file => withAttachment file m
  | none, none => m

/-- One direct message. -/
def message (received : Time.Instant) (p : Platform) (event : Json) : Message :=
  let m := envelope received p event
  match event.field? "postback", event.field? "message" with
  | some postback, _ => withPostback postback m
  | none, some content => withContent content m
  | none, none => m

/-- One comment, with the name its author goes by. -/
def comment (received : Time.Instant) (p : Platform) (v : Json) : Message :=
  let sender := (idAt? v ["from", "id"]).getD ""
  let name := (textAt? v ["from", "username"]).or (textAt? v ["from", "name"])
  { bareMessage p sender (nameOr p name) "comment"
      (secondsOr received (v.field? "created_time")) with
    kind := .comment
    id := (idAt? v ["id"]).or (idAt? v ["comment_id"])
    text := ((textAt? v ["text"]).or (textAt? v ["message"])).getD ""
    details := some (Json.object [
      ("sender_id", .str sender),
      ("media_id", Json.ofText? ((idAt? v ["media", "id"]).or (idAt? v ["post_id"]))),
      ("kind", .str "comment")]) }

def isEcho (event : Json) : Bool :=
  ((event.at? ["message", "is_echo"]).bind Json.flag?).getD false

/-- Whether an event says anything: it holds a message or a tapped button, and is no echo. -/
def speaks (event : Json) : Bool :=
  !isEcho event && ((event.field? "message").isSome || (event.field? "postback").isSome)

/-- The content of a change that is a comment. -/
def commentOf? (change : Json) : Option Json :=
  match textAt? change ["field"] with
  | some "comments" | some "feed" => change.field? "value"
  | _ => none

/-- All messages and comments of a delivery. -/
def messages (received : Time.Instant) (payload : Json) : List Message :=
  let p := platform payload
  (itemsOf payload "entry").flatMap fun entry =>
    ((itemsOf entry "messaging").filter speaks).map (message received p)
      ++ ((itemsOf entry "changes").filterMap commentOf?).map (comment received p)

end Switchboard.Inbound.Meta
