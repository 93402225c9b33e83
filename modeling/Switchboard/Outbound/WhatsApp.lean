import Switchboard.Outbound.Post

/-!
# Posts to WhatsApp

All posts go to the messages of one telephone number. Three buttons fit under a text; more are sent
as a list, of which ten rows are shown. Labels are cut to the lengths that are accepted.
-/

namespace Switchboard.Outbound.WhatsApp

def maxButtons : Nat := 3

def maxRows : Nat := 10

def rowJson (r : Row) : Json :=
  Json.object ([("id", .str (Text.takeChars r.id 200)), ("title", .str (Text.takeChars r.title 24))]
    ++ Json.present [("description", r.description.map fun d => .str (Text.takeChars d 72))])

/-- The sections with their first rows, as many as there is room for. Sections that get none are
left out. -/
def fitSections (room : Nat) : List Section → List Section
  | [] => []
  | s :: sections =>
    match s.rows.take room with
    | [] => fitSections room sections
    | rows => ⟨s.title, rows⟩ :: fitSections (room - rows.length) sections

def sectionJson (s : Section) : Json :=
  Json.object [("title", .str (Text.takeChars s.title 24)), ("rows", .arr (s.rows.map rowJson))]

def listBody (text label : String) (sections : List Section) : Json :=
  Json.object [
    ("type", .str "list"),
    ("body", Json.object [("text", .str text)]),
    ("action", Json.object [
      ("button", .str (Text.takeChars label 20)),
      ("sections", .arr ((fitSections maxRows sections).map sectionJson))])]

def buttonJson (b : Button) : Json :=
  Json.object [
    ("type", .str "reply"),
    ("reply", Json.object [("id", .str b.id), ("title", .str (Text.takeChars b.title 20))])]

def buttonsBody (text : String) (buttons : List Button) : Json :=
  Json.object [
    ("type", .str "button"),
    ("body", Json.object [("text", .str text)]),
    ("action", Json.object [("buttons", .arr (buttons.map buttonJson))])]

/-- Buttons as the rows of one section. -/
def buttonSection (buttons : List Button) : Section :=
  ⟨"Opciones", buttons.map fun b => ⟨b.id, b.title, none⟩⟩

/-- A file; only what is not a sound has a caption. -/
def mediaBody (url caption : String) (kind : MediaKind) : Json :=
  Json.object (("link", .str url) ::
    if kind = .audio ∨ caption.isEmpty then [] else [("caption", .str caption)])

/-- A message to a contact, its content under the name of its kind. -/
def envelope (recipient kind : String) (body : Json) : Json :=
  Json.object [
    ("messaging_product", .str "whatsapp"),
    ("recipient_type", .str "individual"),
    ("to", .str recipient),
    ("type", .str kind),
    (kind, body)]

def payload : Call → Json
  | .text recipient text =>
    envelope recipient "text" (Json.object [("preview_url", .bool false), ("body", .str text)])
  | .media recipient url caption kind => envelope recipient kind.name (mediaBody url caption kind)
  | .buttons recipient text buttons =>
    envelope recipient "interactive"
      (if maxButtons < buttons.length then listBody text "Ver opciones" [buttonSection buttons]
        else buttonsBody text buttons)
  | .list recipient text label sections =>
    envelope recipient "interactive" (listBody text label sections)
  | .location recipient latitude longitude name address =>
    envelope recipient "location" (Json.object [
      ("latitude", Json.ofFloat latitude), ("longitude", Json.ofFloat longitude),
      ("name", .str name), ("address", .str address)])
  | .read messageId =>
    Json.object [
      ("messaging_product", .str "whatsapp"), ("status", .str "read"),
      ("message_id", .str messageId)]

def posts (base phoneId token : String) (call : Call) : List Post :=
  [⟨base ++ "/" ++ phoneId ++ "/messages", some token, payload call, ["messages", "0", "id"]⟩]

end Switchboard.Outbound.WhatsApp
