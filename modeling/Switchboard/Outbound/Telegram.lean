import Switchboard.Outbound.Post

/-!
# Posts to Telegram

Each kind of call has a method of its own, named in the address beside the token. Options become a
keyboard with one button in a row, whose data is cut to sixty-four bytes. Reading is not reported.
-/

namespace Switchboard.Outbound.Telegram

def maxData : Nat := 64

/-- The longest start of a text that takes at most so many bytes. -/
def takeBytes : Nat → List Char → List Char
  | _, [] => []
  | room, c :: cs => if c.utf8Size ≤ room then c :: takeBytes (room - c.utf8Size) cs else []

def keyJson (option : String × String) : Json :=
  .arr [Json.object [
    ("text", .str option.2),
    ("callback_data", .str (String.ofList (takeBytes maxData option.1.toList)))]]

/-- A text above a keyboard of options, each an id and a title. -/
def keyboardMessage (recipient text : String) (options : List (String × String)) : Json :=
  Json.object [
    ("chat_id", .str recipient),
    ("text", .str text),
    ("reply_markup", Json.object [("inline_keyboard", .arr (options.map keyJson))])]

/-- The method for a kind of file, and the name of its field. -/
def mediaMethod : MediaKind → String × String
  | .image => ("sendPhoto", "photo")
  | .video => ("sendVideo", "video")
  | .audio => ("sendAudio", "audio")
  | .document => ("sendDocument", "document")

def point (recipient : String) (latitude longitude : Float) : List (String × Json) :=
  [("chat_id", .str recipient),
    ("latitude", Json.ofFloat latitude),
    ("longitude", Json.ofFloat longitude)]

/-- The method of a call and what is posted to it. -/
def request? : Call → Option (String × Json)
  | .text recipient text =>
    some ("sendMessage", Json.object [("chat_id", .str recipient), ("text", .str text)])
  | .media recipient url caption kind =>
    some ((mediaMethod kind).1, Json.object (
      [("chat_id", .str recipient), ((mediaMethod kind).2, .str url)]
        ++ if caption.isEmpty then [] else [("caption", .str (Text.takeChars caption 1024))]))
  | .buttons recipient text buttons =>
    some ("sendMessage", keyboardMessage recipient text (buttons.map fun b => (b.id, b.title)))
  | .list recipient text _ sections =>
    some ("sendMessage",
      keyboardMessage recipient text ((Section.allRows sections).map fun r => (r.id, r.title)))
  | .location recipient latitude longitude name address =>
    if name.isEmpty ∨ address.isEmpty then
      some ("sendLocation", Json.object (point recipient latitude longitude))
    else
      some ("sendVenue", Json.object (point recipient latitude longitude
        ++ [("title", .str name), ("address", .str address)]))
  | .read _ => none

def posts (base token : String) (call : Call) : List Post :=
  match request? call with
  | some (method, payload) =>
    [⟨base ++ "/bot" ++ token ++ "/" ++ method, none, payload, ["result", "message_id"]⟩]
  | none => []

end Switchboard.Outbound.Telegram
