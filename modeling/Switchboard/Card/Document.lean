import Switchboard.Card
import Switchboard.Message.Document

/-!
# Cards as documents

The fields of lanes, lines of conversation, positions and cards in JSON. A line names its author by
role, the contact as user and everyone else as agent; an actor beside it tells operators from bots.
-/

namespace Switchboard

namespace Lane

def toJson (l : Lane) : Json :=
  Json.object ([("id", .str l.id), ("name", .str l.name)]
    ++ Json.present [("order", l.order.map Json.ofInt)])

def read? {δ : Type} [Document δ] (v : δ) : Option Lane := do
  let f ← Document.record? ["id", "name", "order"] v
  return ⟨← f.required "id" Document.text?, ← f.required "name" Document.text?,
    ← f.optional "order" Document.int64?⟩

end Lane

namespace Author

/-- The actor beside the role of an author, with its kind and id. -/
def actorJson (kind : String) (id : Option String) : Json :=
  Json.object (("kind", .str kind) :: Json.present [("id", id.map Json.str)])

def members : Author → List (String × Json)
  | .contact => [("sender", .str "user")]
  | .agent id => [("sender", .str "agent"), ("actor", actorJson "agent" id)]
  | .bot id => [("sender", .str "agent"), ("actor", actorJson "bot" id)]

/-- A choice inside a line: a name, or an object with that one name whose content is null or an
empty object. -/
def choice? : Json → Option String
  | .str s => some s
  | .obj [(s, .null)] | .obj [(s, .obj [])] => some s
  | _ => none

/-- The actor of an agent: whether it is a bot, and its id. -/
def actor? (v : Json) : Option (Bool × Option String) := do
  let f ← v.record? ["kind", "id"]
  let kind ← f.required "kind" choice?
  let id ← f.optional "id" Json.text?
  match kind with
  | "agent" => some (false, id)
  | "bot" => some (true, id)
  | _ => none

def ofMembers? (members : List (String × Json)) : Option Author := do
  let f : Fields Json := ⟨fun name => members.lookup name, true⟩
  let role ← f.required "sender" choice?
  let actor ← f.optional "actor" actor?
  match role, actor with
  | "user", _ => some .contact
  | "agent", some (true, id) => some (.bot id)
  | "agent", some (false, id) => some (.agent id)
  | "agent", none => some (.agent none)
  | _, _ => none

end Author

namespace Entry

def toJson? (e : Entry) : Option Json := do
  let sentAt ← e.sentAt.write?
  return Json.object (e.author.members ++ [
    ("text", .str e.text),
    ("type", .str e.kind.name),
    ("timestamp", .str sentAt)]
    ++ Json.present [
    ("platform", e.platform.map fun p => .str p.name),
    ("media_url", e.mediaUrl.map Json.str),
    ("whatsappMessageId", e.whatsAppId.map Json.str)])

/-- A line is an object; its author's members stand among its own. -/
def ofJson? : Json → Option Entry
  | .obj members => do
    let f : Fields Json := ⟨fun name => members.lookup name, true⟩
    return {
      author := ← Author.ofMembers? members
      text := ← f.required "text" Json.text?
      kind := ← f.required "type" Document.contentKind?
      sentAt := ← f.required "timestamp" Document.instant?
      platform := ← f.optional "platform" Document.platform?
      mediaUrl := ← f.optional "media_url" Json.text?
      whatsAppId := ← f.optional "whatsappMessageId" Json.text? }
  | _ => none

end Entry

namespace Progress

def name : Progress → String
  | .active => "active"
  | .completed => "completed"

def ofJson? (v : Json) : Option Progress :=
  match v.choice? with
  | some "active" => some .active
  | some "completed" => some .completed
  | _ => none

end Progress

namespace Position

def toJson? (p : Position) : Option Json := do
  let touchedAt ← p.touchedAt.write?
  return Json.object [
    ("status", .str p.progress.name),
    ("currentNodeId", Json.ofText? p.node),
    ("lastInteraction", .str touchedAt)]

def ofJson? (v : Json) : Option Position := do
  let f ← v.record? ["status", "currentNodeId", "lastInteraction"]
  return ⟨← f.required "status" Progress.ofJson?, ← f.orNull "currentNodeId" Json.text?,
    ← f.required "lastInteraction" Document.instant?⟩

end Position

namespace PerPlatform

variable {α : Type}

def toJson (write : α → Json) (m : PerPlatform α) : Json :=
  Json.object (m.toList.map fun (p, x) => (p.name, write x))

/-- An object whose names are all names of platforms. -/
def ofJson? (read : Json → Option α) (v : Json) : Option (PerPlatform α) :=
  match v with
  | .obj members =>
    members.foldlM (fun m (name, w) => do
      return m.set (← Platform.ofName? name) (← read w)) PerPlatform.none
  | _ => Option.none

end PerPlatform

namespace Card

/-- The document of a card; there is none when one of its times has no written form. -/
def toJson? (c : Card) : Option Json := do
  let entries ← c.entries.mapM Entry.toJson?
  let position ← c.position.mapM Position.toJson?
  let createdAt ← c.createdAt.write?
  let updatedAt ← c.updatedAt.write?
  let lastReadAt ← c.lastReadAt.mapM Time.Instant.write?
  return Json.object ([
    ("id", .str c.id),
    ("groupId", .str c.laneId),
    ("contactName", .str c.contactName),
    ("platform_ids", c.addresses.toJson Json.str),
    ("platform_metadata", c.details.toJson fun v => v),
    ("lastMessage", .str c.lastMessage),
    ("messages", .arr entries),
    ("customFields", Json.object (c.fields.items.map fun (name, value) => (name, .str value))),
    ("createdAt", .str createdAt),
    ("updatedAt", .str updatedAt)]
    ++ Json.present [
    ("contactNumber", c.contactNumber.map Json.str),
    ("normalizedPhone", c.phone.map Json.str),
    ("botState", position),
    ("lastReadAt", lastReadAt.map Json.str),
    ("last_interaction_source", c.lastPlatform.map fun p => .str p.name),
    ("last_interaction_type", c.lastKind.map fun k => .str k.name)])

def fieldNames : List String :=
  ["id", "groupId", "contactName", "contactNumber", "normalizedPhone", "platform_ids",
    "platform_metadata", "lastMessage", "messages", "botState", "customFields", "createdAt",
    "updatedAt", "lastReadAt", "last_interaction_source", "last_interaction_type"]

def ofJson? (v : Json) : Option Card := do
  let f ← v.record? fieldNames
  return {
    id := ← f.required "id" Json.text?
    laneId := ← f.required "groupId" Json.text?
    contactName := ← f.required "contactName" Json.text?
    contactNumber := ← f.optional "contactNumber" Json.text?
    phone := ← f.optional "normalizedPhone" Json.text?
    addresses := ← f.defaulted "platform_ids" PerPlatform.none (PerPlatform.ofJson? Json.text?)
    details := ← f.defaulted "platform_metadata" PerPlatform.none (PerPlatform.ofJson? some)
    lastMessage := ← f.defaulted "lastMessage" "" Json.text?
    entries := ← f.defaulted "messages" [] (Document.list? Entry.ofJson?)
    position := ← f.optional "botState" Position.ofJson?
    fields := ← f.defaulted "customFields" Catalog.empty (Document.dictionary? Json.text?)
    createdAt := ← f.required "createdAt" Document.instant?
    updatedAt := ← f.required "updatedAt" Document.instant?
    lastReadAt := ← f.optional "lastReadAt" Document.instant?
    lastPlatform := ← f.optional "last_interaction_source" Document.platform?
    lastKind := ← f.optional "last_interaction_type" Document.contentKind? }

end Card

end Switchboard
