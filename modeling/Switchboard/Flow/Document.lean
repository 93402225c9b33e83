import Switchboard.Document
import Switchboard.Flow.Options
import Switchboard.Message.Document

/-!
# Flows as documents

The fields of nodes, edges, flows, bots and options in documents.
-/

namespace Switchboard

variable {δ : Type} [Document δ]

namespace Node

def toJson (n : Node) : Json :=
  Json.object [("id", .str n.id), ("type", .str n.kind.name), ("data", .obj n.data.items)]

def read? (v : δ) : Option Node := do
  let f ← Document.record? ["id", "type", "data"] v
  return ⟨← f.required "id" Document.text?,
    ← f.required "type" fun v => (Document.choice? v).map NodeKind.ofName,
    ← f.defaulted "data" Catalog.empty (Document.dictionary? Document.json?)⟩

end Node

namespace Edge

def toJson (e : Edge) : Json :=
  Json.object ([("source", .str e.source), ("target", .str e.target)]
    ++ Json.present [("sourceHandle", e.handle.map Json.str)])

def read? (v : δ) : Option Edge := do
  let f ← Document.record? ["source", "target", "sourceHandle"] v
  return ⟨← f.required "source" Document.text?, ← f.required "target" Document.text?,
    ← f.optional "sourceHandle" Document.text?⟩

end Edge

namespace Flow

def toJson (f : Flow) : Json :=
  Json.object [("nodes", .arr (f.nodes.map Node.toJson)), ("edges", .arr (f.edges.map Edge.toJson))]

def read? (v : δ) : Option Flow := do
  let f ← Document.record? ["nodes", "edges"] v
  return ⟨← f.defaulted "nodes" [] (Document.list? Node.read?),
    ← f.defaulted "edges" [] (Document.list? Edge.read?)⟩

end Flow

namespace Bot

/-- The document of a bot; there is none when its time has no written form. -/
def toJson? (b : Bot) : Option Json := do
  let updatedAt ← b.updatedAt.write?
  return Json.object [
    ("id", .str b.id),
    ("name", .str b.name),
    ("isActive", .bool b.isActive),
    ("updatedAt", .str updatedAt),
    ("flow", b.flow.toJson)]

def read? (v : δ) : Option Bot := do
  let f ← Document.record? ["id", "name", "isActive", "updatedAt", "flow"] v
  return ⟨← f.required "id" Document.text?, ← f.required "name" Document.text?,
    ← f.defaulted "isActive" false Document.flag?, ← f.required "updatedAt" Document.instant?,
    ← f.required "flow" Flow.read?⟩

end Bot

namespace Button

def toJson (b : Button) : Json := Json.object [("id", .str b.id), ("title", .str b.title)]

def read? (v : δ) : Option Button := do
  let f ← Document.record? ["id", "title"] v
  return ⟨← f.required "id" Document.text?, ← f.required "title" Document.text?⟩

end Button

namespace Row

def toJson (r : Row) : Json :=
  Json.object ([("id", .str r.id), ("title", .str r.title)]
    ++ Json.present [("description", r.description.map Json.str)])

def read? (v : δ) : Option Row := do
  let f ← Document.record? ["id", "title", "description"] v
  return ⟨← f.required "id" Document.text?, ← f.required "title" Document.text?,
    ← f.optional "description" Document.text?⟩

end Row

namespace Section

def toJson (s : Section) : Json :=
  Json.object [("title", .str s.title), ("rows", .arr (s.rows.map Row.toJson))]

def read? (v : δ) : Option Section := do
  let f ← Document.record? ["title", "rows"] v
  return ⟨← f.required "title" Document.text?, ← f.required "rows" (Document.list? Row.read?)⟩

end Section

end Switchboard
