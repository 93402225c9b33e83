import Switchboard.Document
import Switchboard.Inbound.Payload

/-!
# Telegram updates

An update holds a message, an edited message, or the press of a button under one. Its parts have to
be of the right types; an update that is not understood counts as empty.
-/

namespace Switchboard.Inbound.Telegram

structure User where
  id : Int
  firstName : Option String
  lastName : Option String
  username : Option String

structure Content where
  id : Option Int
  date : Option Int
  sender : Option User
  chat : Option Int
  text : Option String
  caption : Option String
  photo : List String
  video : Option String
  voice : Option String
  audio : Option String
  document : Option String
  sticker : Option String
  location : Option (Float × Float)

structure Press where
  sender : User
  data : Option String
  message : Option Content

structure Update where
  message : Option Content
  edited : Option Content
  press : Option Press

def User.ofJson? (v : Json) : Option User := do
  let f ← v.record? ["id", "first_name", "last_name", "username"]
  return ⟨← f.required "id" Json.int64?, ← f.optional "first_name" Json.text?,
    ← f.optional "last_name" Json.text?, ← f.optional "username" Json.text?⟩

def chat? (v : Json) : Option Int := do
  (← v.record? ["id"]).required "id" Json.int64?

def file? (v : Json) : Option String := do
  (← v.record? ["file_id"]).required "file_id" Json.text?

def point? (v : Json) : Option (Float × Float) := do
  let f ← v.record? ["latitude", "longitude"]
  return (← f.required "latitude" Json.float?, ← f.required "longitude" Json.float?)

def Content.ofJson? (v : Json) : Option Content := do
  let f ← v.record? ["message_id", "date", "from", "chat", "text", "caption", "photo", "video",
    "voice", "audio", "document", "sticker", "location"]
  return {
    id := ← f.optional "message_id" Json.int64?
    date := ← f.optional "date" Json.int64?
    sender := ← f.optional "from" User.ofJson?
    chat := ← f.optional "chat" chat?
    text := ← f.optional "text" Json.text?
    caption := ← f.optional "caption" Json.text?
    photo := ← f.defaulted "photo" [] (Document.list? file?)
    video := ← f.optional "video" file?
    voice := ← f.optional "voice" file?
    audio := ← f.optional "audio" file?
    document := ← f.optional "document" file?
    sticker := ← f.optional "sticker" file?
    location := ← f.optional "location" point? }

def Press.ofJson? (v : Json) : Option Press := do
  let f ← v.record? ["from", "data", "message"]
  return ⟨← f.required "from" User.ofJson?, ← f.optional "data" Json.text?,
    ← f.optional "message" Content.ofJson?⟩

def Update.ofJson? (v : Json) : Option Update := do
  let f ← v.record? ["message", "edited_message", "callback_query"]
  return ⟨← f.optional "message" Content.ofJson?, ← f.optional "edited_message" Content.ofJson?,
    ← f.optional "callback_query" Press.ofJson?⟩

/-- First and last name, or else the name the user goes by. -/
def displayName (user : Option User) : String :=
  let parts := (user.map fun u => [u.firstName, u.lastName].filterMap id).getD []
  let given := (parts.map Text.trim).filter fun s => !s.isEmpty
  let full := " ".intercalate given
  nameOr .telegram (if full.isEmpty then user.bind User.username else some full)

def details (chat : Option Int) (user : Option User) : Json :=
  Json.object [
    ("chat_id", (chat.map Json.ofInt).getD .null),
    ("username", Json.ofText? (user.bind User.username))]

/-- The press of a button is a reply with the button's data. -/
def ofPress (received : Time.Instant) (press : Press) : Message :=
  let data := press.data.getD ""
  { bareMessage .telegram (toString press.sender.id) (displayName (some press.sender)) "callback"
      received with
    kind := .text, text := data
    reply := some ⟨"callback_query", data, data⟩
    details := some (details (press.message.bind Content.chat) (some press.sender)) }

/-- The attached file, with the word for its kind; of a photo the last size. -/
def Content.file? (c : Content) : Option (String × String) :=
  [("photo", c.photo.getLast?), ("video", c.video), ("voice", c.voice), ("audio", c.audio),
    ("document", c.document), ("sticker", c.sticker)].findSome? fun (kind, file) =>
    file.map fun f => (kind, f)

def Content.caption? (c : Content) : Option String := c.caption.filter fun s => !Text.isBlank s

/-- The text, else the file, else the place. -/
def withContent (c : Content) (m : Message) : Message :=
  match c.text, c.file?, c.location with
  | some text, _, _ => { m with kind := .text, text := text }
  | none, some (kind, file), _ =>
    { m with
      kind := (ContentKind.ofMedia? kind).getD .unknown
      mediaUrl := some file
      text := c.caption?.getD (placeholder kind) }
  | none, none, some (latitude, longitude) =>
    { m with
      kind := .location
      text := placeholder "location"
      place := some ⟨latitude, longitude, none, none⟩ }
  | none, none, none => m

/-- A message is known by its author, or by its chat. -/
def ofContent (received : Time.Instant) (c : Content) : Message :=
  let sender := (((c.sender.map User.id).or c.chat).map toString).getD ""
  withContent c
    { bareMessage .telegram sender (displayName c.sender) "unknown"
        (secondsOr received (c.date.map Json.ofInt)) with
      id := c.id.map toString
      details := some (details c.chat c.sender) }

/-- The one message of an update. -/
def message (received : Time.Instant) (payload : Json) : Message :=
  let update := (Update.ofJson? payload).getD ⟨none, none, none⟩
  match update.press, update.message.or update.edited with
  | some press, _ => ofPress received press
  | none, some content => ofContent received content
  | none, none => bareMessage .telegram "" (displayName none) "unknown" received

end Switchboard.Inbound.Telegram
