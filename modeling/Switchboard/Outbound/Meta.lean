import Switchboard.Outbound.Menu
import Switchboard.Outbound.Post

/-!
# Posts to Messenger and Instagram

Buttons and short lists become quick replies, of which thirteen are shown; a longer list becomes a
numbered menu. The caption of a file follows as a message of its own. Reading is not reported.
-/

namespace Switchboard.Outbound.Meta

def maxReplies : Nat := 13

def replyJson (option : String × String) : Json :=
  Json.object [
    ("content_type", .str "text"),
    ("title", .str (Text.takeChars option.2 20)),
    ("payload", .str option.1)]

def textMessage (text : String) : Json := Json.object [("text", .str text)]

/-- A text with options, each an id and a title. -/
def quickReplies (text : String) (options : List (String × String)) : Json :=
  Json.object [("text", .str text), ("quick_replies", .arr (options.map replyJson))]

/-- The word for the kind of a file. -/
def attachmentKind : MediaKind → String
  | .document => "file"
  | kind => kind.name

def attachment (url : String) (kind : MediaKind) : Json :=
  Json.object [("attachment", Json.object [
    ("type", .str (attachmentKind kind)),
    ("payload", Json.object [("url", .str url), ("is_reusable", .bool true)])])]

/-- A list as quick replies if it is short, else as a menu. -/
def listMessage (text : String) (sections : List Section) : Json :=
  let rows := Section.allRows sections
  if rows.length ≤ maxReplies then quickReplies text (rows.map fun r => (r.id, r.title))
  else textMessage (numberedMenu text sections)

/-- The messages of a call, with their recipient. -/
def messages : Call → List (String × Json)
  | .text recipient text => [(recipient, textMessage text)]
  | .media recipient url caption kind =>
    (recipient, attachment url kind) ::
      if caption.isEmpty then [] else [(recipient, textMessage caption)]
  | .buttons recipient text buttons =>
    [(recipient, quickReplies text ((buttons.take maxReplies).map fun b => (b.id, b.title)))]
  | .list recipient text _ sections => [(recipient, listMessage text sections)]
  | .location recipient latitude longitude name address =>
    [(recipient, textMessage (mapLink latitude longitude name address))]
  | .read _ => []

def posts (base token : String) (call : Call) : List Post :=
  (messages call).map fun (recipient, message) =>
    ⟨base ++ "/me/messages", some token,
      Json.object [
        ("recipient", Json.object [("id", .str recipient)]),
        ("messaging_type", .str "RESPONSE"),
        ("message", message)],
      ["message_id"]⟩

end Switchboard.Outbound.Meta
