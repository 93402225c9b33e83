import Switchboard.Document
import Switchboard.Message

/-!
# Messages as documents

The fields of an inbound message in JSON, and how it is read back. Parts that are absent are left
out.
-/

namespace Switchboard

namespace Document

variable {δ : Type} [Document δ]

def platform? (v : δ) : Option Platform := (choice? v).bind Platform.ofName?

def contentKind? (v : δ) : Option ContentKind := (choice? v).bind ContentKind.ofName?

end Document

namespace Place

def toJson (p : Place) : Json :=
  Json.object ([("latitude", Json.ofFloat p.latitude), ("longitude", Json.ofFloat p.longitude)]
    ++ Json.present [("name", p.name.map Json.str), ("address", p.address.map Json.str)])

def ofJson? (v : Json) : Option Place := do
  let f ← v.record? ["latitude", "longitude", "name", "address"]
  return ⟨← f.required "latitude" Json.float?, ← f.required "longitude" Json.float?,
    ← f.optional "name" Json.text?, ← f.optional "address" Json.text?⟩

end Place

namespace Reply

def toJson (r : Reply) : Json :=
  Json.object [("kind", .str r.kind), ("id", .str r.id), ("title", .str r.title)]

def ofJson? (v : Json) : Option Reply := do
  let f ← v.record? ["kind", "id", "title"]
  return ⟨← f.required "kind" Json.text?, ← f.required "id" Json.text?,
    ← f.required "title" Json.text?⟩

end Reply

namespace Message

/-- The document of a message; there is none when its time has no written form. -/
def toJson? (m : Message) : Option Json := do
  let sentAt ← m.sentAt.write?
  return Json.object ([
    ("source_platform", .str m.platform.name),
    ("external_id", .str m.sender),
    ("contact_name", .str m.contactName),
    ("message_text", .str m.text),
    ("message_type", .str m.kind.name),
    ("timestamp", .str sentAt)]
    ++ Json.present [
    ("message_id", m.id.map Json.str),
    ("media_url", m.mediaUrl.map Json.str),
    ("platform_metadata", m.details),
    ("interactive_data", m.reply.map Reply.toJson),
    ("location", m.place.map Place.toJson)])

def fieldNames : List String :=
  ["source_platform", "external_id", "contact_name", "message_text", "message_type", "timestamp",
    "message_id", "media_url", "platform_metadata", "interactive_data", "location"]

def ofJson? (v : Json) : Option Message := do
  let f ← v.record? fieldNames
  return {
    platform := ← f.required "source_platform" Document.platform?
    sender := ← f.required "external_id" Json.text?
    contactName := ← f.required "contact_name" Json.text?
    text := ← f.required "message_text" Json.text?
    kind := ← f.required "message_type" Document.contentKind?
    sentAt := ← f.required "timestamp" Document.instant?
    id := ← f.optional "message_id" Json.text?
    mediaUrl := ← f.optional "media_url" Json.text?
    details := ← f.optional "platform_metadata" some
    reply := ← f.optional "interactive_data" Reply.ofJson?
    place := ← f.optional "location" Place.ofJson? }

end Message

end Switchboard
