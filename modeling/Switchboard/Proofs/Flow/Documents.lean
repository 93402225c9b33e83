import Switchboard.Flow.Document
import Switchboard.Proofs.Card.Documents

/-!
# Bots read back from their documents

A node keeps its data as it is, whatever JSON that holds, and its kind by name; an edge leaves out
the handle it does not have. Flows and bots are read back part by part. Together with cards these
are the documents that are stored, and each is read back as it was written (`stored_read_back`).
-/

namespace Switchboard

open Json Fields

namespace Node

theorem read?_toJson (n : Node) : read? n.toJson = some n := by
  unfold read? toJson
  rw [Document.record?_object]
  generalize hf : (Fields.mk (member? _) true : Fields Json) = f
  have hid : f.required "id" Document.text? = some n.id :=
    required_of_some (v := .str n.id) (by simp [← hf]) rfl
  have hkind : (f.required "type" fun v => (Document.choice? v).map NodeKind.ofName) =
      some n.kind :=
    required_of_some (v := .str n.kind.name) (by simp [← hf])
      (congrArg some (NodeKind.ofName_name n.kind))
  have hdata : f.defaulted "data" Catalog.empty (Document.dictionary? Document.json?) =
      some n.data := by
    have hback : Document.dictionary? Document.json?
        (Json.obj (n.data.items.map fun m => (m.1, m.2))) = some n.data :=
      dictionary?_obj (fun _ => rfl) n.data
    exact defaulted_of_some (v := .obj n.data.items) (by simp [← hf]) (by simpa using hback)
  rw [Option.bind_eq_bind, Option.bind_some, hid, hkind, hdata]
  rfl

end Node

namespace Edge

theorem read?_toJson (e : Edge) : read? e.toJson = some e := by
  unfold read? toJson
  rw [Document.record?_object]
  generalize hf : (Fields.mk (member? _) true : Fields Json) = f
  have hsource : f.required "source" Document.text? = some e.source :=
    required_of_some (v := .str e.source) (by simp [← hf]) rfl
  have htarget : f.required "target" Document.text? = some e.target :=
    required_of_some (v := .str e.target) (by simp [← hf]) rfl
  have hhandle : f.optional "sourceHandle" Document.text? = some e.handle :=
    optional_of_readsBack readsBack_text (by simp [← hf])
  rw [Option.bind_eq_bind, Option.bind_some, hsource, htarget, hhandle]
  rfl

end Edge

theorem Flow.read?_toJson (w : Flow) : read? w.toJson = some w := by
  unfold read? toJson
  rw [Document.record?_object]
  generalize hf : (Fields.mk (member? _) true : Fields Json) = f
  have hnodes : f.defaulted "nodes" [] (Document.list? Node.read?) = some w.nodes :=
    defaulted_of_some (v := .arr (w.nodes.map Node.toJson)) (by simp [← hf])
      (list?_arr Node.read?_toJson w.nodes)
  have hedges : f.defaulted "edges" [] (Document.list? Edge.read?) = some w.edges :=
    defaulted_of_some (v := .arr (w.edges.map Edge.toJson)) (by simp [← hf])
      (list?_arr Edge.read?_toJson w.edges)
  rw [Option.bind_eq_bind, Option.bind_some, hnodes, hedges]
  rfl

namespace Bot

theorem toJson?_some {b : Bot} : (∃ v, b.toJson? = some v) ↔ b.updatedAt.HasForm := by
  rw [Time.Instant.hasForm_iff]
  unfold toJson?
  cases b.updatedAt.write? <;> simp

/-- A bot is read back from its document. -/
theorem read?_of_toJson? {b : Bot} {v : Json} (hnear : b.updatedAt.Near)
    (h : b.toJson? = some v) : read? v = some b := by
  unfold toJson? at h
  simp only [Option.bind_eq_bind, Option.bind_eq_some_iff, Option.pure_def,
    Option.some.injEq] at h
  obtain ⟨updatedAt, hupdated, rfl⟩ := h
  unfold read?
  rw [Document.record?_object]
  generalize hf : (Fields.mk (member? _) true : Fields Json) = f
  have hid : f.required "id" Document.text? = some b.id :=
    required_of_some (v := .str b.id) (by simp [← hf]) rfl
  have hname : f.required "name" Document.text? = some b.name :=
    required_of_some (v := .str b.name) (by simp [← hf]) rfl
  have hactive : f.defaulted "isActive" false Document.flag? = some b.isActive :=
    defaulted_of_some (v := .bool b.isActive) (by simp [← hf]) rfl
  have hupdatedAt : f.required "updatedAt" Document.instant? = some b.updatedAt :=
    required_of_some (v := .str updatedAt) (by simp [← hf])
      (Time.Instant.instant?_of_write? hnear hupdated)
  have hflow : f.required "flow" Flow.read? = some b.flow :=
    required_of_some (v := b.flow.toJson) (by simp [← hf]) b.flow.read?_toJson
  rw [Option.bind_eq_bind, Option.bind_some, hid, hname, hactive, hupdatedAt, hflow]
  rfl

end Bot

-- ---------------------------------------------------------------------------
-- Stored documents
-- ---------------------------------------------------------------------------

/-- A time that the internet form holds: the year has four digits, and the clock is less than a day
from universal time. -/
def Time.Instant.Printable (t : Time.Instant) : Prop := t.HasForm ∧ t.Near

instance (t : Time.Instant) : Decidable t.Printable :=
  inferInstanceAs (Decidable (t.HasForm ∧ t.offset.natAbs < 1440))

theorem stored_read_back :
    (∀ c : Card, (∀ t ∈ c.times, t.Printable) →
      ∃ v, c.toJson? = some v ∧ Card.ofJson? v = some c) ∧
    ∀ b : Bot, b.updatedAt.Printable → ∃ v, b.toJson? = some v ∧ Bot.read? v = some b := by
  constructor
  · intro c htimes
    obtain ⟨v, hv⟩ := Card.toJson?_some.2 fun t ht => (htimes t ht).1
    exact ⟨v, hv, Card.ofJson?_of_toJson? (fun t ht => (htimes t ht).2) hv⟩
  · rintro b ⟨hform, hnear⟩
    obtain ⟨v, hv⟩ := Bot.toJson?_some.2 hform
    exact ⟨v, hv, Bot.read?_of_toJson? hnear hv⟩

/-- A card with lines of every author, some under an id, on clocks at both sides of universal time.
-/
def fullCard : Card where
  id := "c"
  laneId := "inbox"
  contactName := "Rosa"
  contactNumber := some "+52 55 0000 0003"
  phone := some "525500000003"
  addresses := .set (.set .none .whatsApp "525500000003") .telegram "77"
  details := .set .none .telegram
    (.obj [("name", .arr [.null, .bool true, .num (.int (-1))]), ("", .obj [])])
  lastMessage := "bye"
  entries := [
    ⟨.contact, "hi", .image, ⟨951782400123456789, 330⟩, some .telegram, some "u", none⟩,
    ⟨.agent none, "a", .text, ⟨951782400000000001, -180⟩, none, none, none⟩,
    ⟨.agent (some "ana"), "b", .text, ⟨951782400000000000, 0⟩, none, none, some "wamid"⟩,
    ⟨.bot none, "c", .text, ⟨951782400000000000, 0⟩, some .sms, none, none⟩,
    ⟨.bot (some "b"), "bye", .interactive, ⟨951782400000000000, 0⟩, none, none, none⟩]
  position := some (.activeAt "q" ⟨951782400500000000, 1439⟩)
  fields := .set .empty "size" "38"
  createdAt := ⟨-62167219200000000000, 0⟩
  updatedAt := ⟨253402300799999999999, 0⟩
  lastReadAt := none
  lastPlatform := some .whatsApp
  lastKind := none

/-- A bot with a node of an unknown kind, and edges with and without a handle. -/
def fullBot : Bot where
  id := "b"
  name := "Relay"
  isActive := true
  updatedAt := ⟨951782400123000000, -210⟩
  flow := ⟨[⟨"s", .start, .empty⟩, ⟨"s", .unknown, .set .empty "text" (.arr [.str "hi", .null])⟩],
    [⟨"s", "q", none⟩, ⟨"q", "s", some "yes"⟩]⟩

theorem full_read_back :
    (∀ t ∈ fullCard.times, t.Printable) ∧ fullBot.updatedAt.Printable ∧
      (∃ v, fullCard.toJson? = some v ∧ Card.ofJson? v = some fullCard) ∧
      ∃ v, fullBot.toJson? = some v ∧ Bot.read? v = some fullBot := by
  have hcard : ∀ t ∈ fullCard.times, t.Printable := by decide +kernel
  have hbot : fullBot.updatedAt.Printable := by decide +kernel
  exact ⟨hcard, hbot, stored_read_back.1 fullCard hcard, stored_read_back.2 fullBot hbot⟩

end Switchboard
