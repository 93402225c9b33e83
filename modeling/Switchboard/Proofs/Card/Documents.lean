import Switchboard.Card.Document
import Switchboard.Proofs.Json.Text
import Switchboard.Proofs.Time.Written

/-!
# Cards read back from their documents

A card has a document when all of its times have a written form (`Card.toJson?_some`), and is then
read back from it (`Card.ofJson?_of_toJson?`).
-/

namespace Switchboard

open Json Fields

-- ---------------------------------------------------------------------------
-- Times
-- ---------------------------------------------------------------------------

namespace Time.Instant

theorem instant?_of_write? {t : Instant} {s : String} (hnear : t.Near) (h : t.write? = some s) :
    Document.instant? (Json.str s) = some t := read?_of_write? hnear h

end Time.Instant

theorem optional_instant {f : Fields Json} {name : String} {x : Option Time.Instant}
    {s : Option String} (hnear : ∀ t ∈ x, t.Near) (h : x.mapM Time.Instant.write? = some s)
    (hf : f.value? name = s.map Json.str) : f.optional name Document.instant? = some x := by
  cases x with
  | none =>
    cases h
    simp [Fields.optional, Fields.defaulted, hf]
  | some t =>
    simp only [Option.mapM_some, Option.map_eq_map, Option.map_eq_some_iff] at h
    obtain ⟨s, hs, rfl⟩ := h
    have hread := Time.Instant.instant?_of_write? (hnear t rfl) hs
    simp [Fields.optional, Fields.defaulted, hf, Fields.nullable, hread, Document.isNull]

-- ---------------------------------------------------------------------------
-- Lines
-- ---------------------------------------------------------------------------

namespace Entry

theorem toJson?_some {e : Entry} : (∃ v, e.toJson? = some v) ↔ e.sentAt.HasForm := by
  rw [Time.Instant.hasForm_iff]
  unfold toJson?
  cases e.sentAt.write? <;> simp

theorem readsBack_actor :
    ReadsBack
      (fun a : Bool × Option String => Author.actorJson (if a.1 then "bot" else "agent") a.2)
      Author.actor? where
  given _ := rfl
  back := by
    rintro ⟨bot, id⟩
    have hid : ∀ kind : String, (Fields.mk (member? (("kind", .str kind) ::
        present [("id", id.map Json.str)])) true).optional "id" Json.text? = some id := fun _ =>
      optional_of_readsBack readsBack_text (by simp)
    unfold Author.actor? Author.actorJson
    rw [record?_object]
    cases bot <;> simp [Fields.required, hid, Author.choice?]

/-- The author is read back from among the other members of a line. -/
theorem ofMembers?_members (a : Author) (others : List (String × Json))
    (hsender : member? others "sender" = none) (hactor : member? others "actor" = none) :
    Author.ofMembers? ((a.members ++ others).foldl
      (fun ms m => Catalog.insertAscending Prod.fst m ms) []) = some a := by
  simp only [Author.ofMembers?, lookup_foldl_insertAscending]
  have hread : ∀ x : Option (Bool × Option String), member? (a.members ++ others) "actor" =
      x.map (fun a => Author.actorJson (if a.1 then "bot" else "agent") a.2) →
      (Fields.mk (member? (a.members ++ others)) true).optional "actor" Author.actor? = some x :=
    fun x h => optional_of_readsBack readsBack_actor h
  cases a with
  | contact =>
    rw [hread none (by simp [Author.members, hactor])]
    simp [Author.members, Fields.required, hsender, Author.choice?]
  | agent id =>
    rw [hread (some (false, id)) (by simp [Author.members, hactor])]
    simp [Author.members, Fields.required, hsender, Author.choice?]
  | bot id =>
    rw [hread (some (true, id)) (by simp [Author.members, hactor])]
    simp [Author.members, Fields.required, hsender, Author.choice?]

theorem member?_members {name : String} (a : Author) (hsender : name ≠ "sender")
    (hactor : name ≠ "actor") : member? a.members name = none := by
  cases a <;> simp [Author.members, hsender.symm, hactor.symm]

theorem ofJson?_of_toJson? {e : Entry} {v : Json} (hnear : e.sentAt.Near)
    (h : e.toJson? = some v) : ofJson? v = some e := by
  unfold toJson? at h
  simp only [Option.bind_eq_bind, Option.bind_eq_some_iff, Option.pure_def,
    Option.some.injEq] at h
  obtain ⟨sentAt, hsent, rfl⟩ := h
  rw [List.append_assoc]
  generalize hothers : ([("text", .str e.text), ("type", .str e.kind.name),
    ("timestamp", .str sentAt)] ++ present [("platform", e.platform.map fun p => .str p.name),
    ("media_url", e.mediaUrl.map Json.str),
    ("whatsappMessageId", e.whatsAppId.map Json.str)] : List (String × Json)) = others
  have hauthor := ofMembers?_members e.author others (by simp [← hothers]) (by simp [← hothers])
  obtain ⟨f, hf⟩ : ∃ f : Fields Json, f = ⟨member? (e.author.members ++ others), true⟩ :=
    ⟨_, rfl⟩
  have hvalue : ∀ name, name ≠ "sender" → name ≠ "actor" → f.value? name = member? others name := by
    intro name hsender hactor
    simp only [hf, member?_append, member?_members e.author hsender hactor, Option.or_none]
  subst hothers
  have htext : f.required "text" Json.text? = some e.text :=
    required_of_some (v := .str e.text) ((hvalue _ (by decide) (by decide)).trans (by simp)) rfl
  have hkind : f.required "type" Document.contentKind? = some e.kind :=
    required_of_some (v := .str e.kind.name) ((hvalue _ (by decide) (by decide)).trans (by simp))
      (ContentKind.ofName?_name e.kind)
  have hsentAt : f.required "timestamp" Document.instant? = some e.sentAt :=
    required_of_some (v := .str sentAt) ((hvalue _ (by decide) (by decide)).trans (by simp))
      (Time.Instant.instant?_of_write? hnear hsent)
  have hplatform : f.optional "platform" Document.platform? = some e.platform :=
    optional_of_readsBack readsBack_platform ((hvalue _ (by decide) (by decide)).trans (by simp))
  have hmedia : f.optional "media_url" Json.text? = some e.mediaUrl :=
    optional_of_readsBack readsBack_text ((hvalue _ (by decide) (by decide)).trans (by simp))
  have hid : f.optional "whatsappMessageId" Json.text? = some e.whatsAppId :=
    optional_of_readsBack readsBack_text ((hvalue _ (by decide) (by decide)).trans (by simp))
  simp only [ofJson?, Json.object, lookup_foldl_insertAscending, ← hf, hauthor, htext, hkind,
    hsentAt, hplatform, hmedia, hid, Option.bind_eq_bind, Option.bind_some, Option.pure_def]

theorem plain_of_toJson? {e : Entry} {v : Json} (h : e.toJson? = some v) : Plain 2 v := by
  unfold toJson? at h
  simp only [Option.bind_eq_bind, Option.bind_eq_some_iff, Option.pure_def,
    Option.some.injEq] at h
  obtain ⟨sentAt, -, rfl⟩ := h
  have hactor : ∀ kind id, Plain 1 (Author.actorJson kind id) := by
    intro kind id
    refine plain_object (List.forall_mem_cons.2 ⟨.str 0 kind, forall_mem_present.2 ?_⟩)
    simp only [List.forall_mem_singleton]
    exact plain_map_str 0 _ id
  have hauthor : ∀ m ∈ e.author.members, Plain 1 m.2 := by
    cases e.author <;> simp only [Author.members, List.forall_mem_cons]
    · exact ⟨.str 1 _, by simp⟩
    · exact ⟨.str 1 _, hactor _ _, by simp⟩
    · exact ⟨.str 1 _, hactor _ _, by simp⟩
  refine plain_object ?_
  simp only [List.forall_mem_append, forall_mem_present, List.forall_mem_cons]
  exact ⟨⟨hauthor, .str 1 _, .str 1 _, .str 1 _, by simp⟩, plain_map_str 1 _ _,
    plain_map_str 1 _ _, plain_map_str 1 _ _, by simp⟩

end Entry

-- ---------------------------------------------------------------------------
-- Positions
-- ---------------------------------------------------------------------------

namespace Position

theorem toJson?_some {p : Position} : (∃ v, p.toJson? = some v) ↔ p.touchedAt.HasForm := by
  rw [Time.Instant.hasForm_iff]
  unfold toJson?
  cases p.touchedAt.write? <;> simp

theorem isNull_of_toJson? {p : Position} {v : Json} (h : p.toJson? = some v) :
    Document.isNull v = false := by
  unfold toJson? at h
  simp only [Option.bind_eq_bind, Option.bind_eq_some_iff, Option.pure_def,
    Option.some.injEq] at h
  obtain ⟨touchedAt, -, rfl⟩ := h
  rfl

theorem plain_of_toJson? {p : Position} {v : Json} (h : p.toJson? = some v) : Plain 1 v := by
  unfold toJson? at h
  simp only [Option.bind_eq_bind, Option.bind_eq_some_iff, Option.pure_def,
    Option.some.injEq] at h
  obtain ⟨touchedAt, -, rfl⟩ := h
  refine plain_object ?_
  simp only [List.forall_mem_cons]
  exact ⟨.str 0 _, plain_ofText? 0 _, .str 0 _, by simp⟩

theorem ofJson?_of_toJson? {p : Position} {v : Json} (hnear : p.touchedAt.Near)
    (h : p.toJson? = some v) : ofJson? v = some p := by
  unfold toJson? at h
  simp only [Option.bind_eq_bind, Option.bind_eq_some_iff, Option.pure_def,
    Option.some.injEq] at h
  obtain ⟨touchedAt, htouched, rfl⟩ := h
  have hprogress : Progress.ofJson? (.str p.progress.name) = some p.progress := by
    cases p.progress <;> rfl
  have hread := Time.Instant.instant?_of_write? hnear htouched
  rcases p with ⟨progress, _ | node, touchedAt⟩ <;> unfold ofJson? <;> rw [record?_object] <;>
    simp [Fields.required, Fields.orNull, Fields.nullable, Document.isNull, Json.ofText?,
      hprogress, hread]

end Position

-- ---------------------------------------------------------------------------
-- Values for platforms
-- ---------------------------------------------------------------------------

namespace PerPlatform

variable {α : Type} {write : α → Json} {read : Json → Option α}

theorem member?_toList (write : α → Json) (m : PerPlatform α) (q : Platform) :
    member? (m.toList.map fun (p, x) => (p.name, write x)) q.name = (m q).map write := by
  have hpresent : (m.toList.map fun (p, x) => (p.name, write x)) =
      present (Platform.all.map fun p => (p.name, (m p).map write)) := by
    simp only [toList, present, List.map_filterMap, List.filterMap_map, Function.comp_def,
      Option.map_map]
  rw [hpresent]
  cases q <;> simp [Platform.all, Platform.name]

/-- Each name is a platform's, and comes once. -/
theorem foldlM_set {members : List (String × Json)} (before : PerPlatform α)
    (hmembers : ∀ m ∈ members, ∃ p x, m.1 = Platform.name p ∧ read m.2 = some x)
    (hascending : members.Pairwise fun a b => a.1 < b.1) :
    ∃ after, (members.foldlM (fun (m : PerPlatform α) (member : String × Json) => do
        return m.set (← Platform.ofName? member.1) (← read member.2)) before) = some after ∧
      ∀ q : Platform, after q = ((members.lookup q.name).bind read).or (before q) := by
  induction members generalizing before with
  | nil => exact ⟨before, rfl, fun q => rfl⟩
  | cons member members ih =>
    obtain ⟨name, v⟩ := member
    obtain ⟨p, x, rfl, hx⟩ := hmembers _ List.mem_cons_self
    obtain ⟨hlater, hascending⟩ := List.pairwise_cons.1 hascending
    obtain ⟨after, hafter, hvalues⟩ := ih (before.set p x)
      (fun m hm => hmembers m (List.mem_cons_of_mem _ hm)) hascending
    refine ⟨after, ?_, fun q => ?_⟩
    · simp only [List.foldlM_cons, Platform.ofName?_name, hx, Option.bind_eq_bind,
        Option.bind_some, Option.pure_def] at hafter ⊢
      exact hafter
    · rw [hvalues]
      by_cases hq : q = p
      · subst hq
        have hnone : members.lookup q.name = Option.none := by
          refine List.lookup_eq_none_iff.2 fun m hm => ?_
          have hlt : q.name < m.1 := hlater m hm
          simpa using fun e : q.name = m.1 => String.lt_irrefl _ (e ▸ hlt)
        simp [hnone, hx]
      · have hne : (q.name == p.name) = false := by
          simpa using fun e => hq (Platform.name_injective e)
        simp [List.lookup_cons, hne, set_of_ne _ _ hq]

theorem ofJson?_toJson (hback : ∀ x, read (write x) = some x) (m : PerPlatform α) :
    ofJson? read (m.toJson write) = some m := by
  obtain ⟨sorted, hobject, hascending, hmem, hlookup⟩ :=
    object_eq (m.toList.map fun (p, x) => (p.name, write x))
  have hread : ∀ x ∈ sorted, ∃ p y, x.1 = Platform.name p ∧ read x.2 = some y := by
    intro x hx
    obtain ⟨⟨p, y⟩, -, rfl⟩ := List.mem_map.1 (hmem x hx)
    exact ⟨p, y, rfl, hback y⟩
  obtain ⟨after, hafter, hvalues⟩ := foldlM_set none hread hascending
  unfold toJson
  rw [hobject]
  refine hafter.trans (congrArg some (funext fun q => ?_))
  rw [hvalues, hlookup, member?_toList]
  cases h : m q <;> simp [hback, none]

end PerPlatform

-- ---------------------------------------------------------------------------
-- Cards
-- ---------------------------------------------------------------------------

namespace Card

/-- All times on a card. -/
def times (c : Card) : List Time.Instant :=
  c.entries.map Entry.sentAt ++ ((c.position.map Position.touchedAt).toList ++
    ([c.createdAt, c.updatedAt] ++ c.lastReadAt.toList))

/-- A card has a document when all of its times have a written form. -/
theorem toJson?_some {c : Card} : (∃ v, c.toJson? = some v) ↔ ∀ t ∈ c.times, t.HasForm := by
  have hentries : (∃ vs, c.entries.mapM Entry.toJson? = some vs) ↔
      ∀ e ∈ c.entries, e.sentAt.HasForm := by
    rw [exists_mapM_iff]
    exact forall₂_congr fun e _ => Entry.toJson?_some
  have hposition : (∃ v, c.position.mapM Position.toJson? = some v) ↔
      ∀ t ∈ (c.position.map Position.touchedAt).toList, t.HasForm := by
    cases hp : c.position with
    | none => simp
    | some p =>
      have hp := Position.toJson?_some (p := p)
      cases hv : p.toJson? <;> simp_all
  have hread : (∃ s, c.lastReadAt.mapM Time.Instant.write? = some s) ↔
      ∀ t ∈ c.lastReadAt.toList, t.HasForm := by
    cases hr : c.lastReadAt with
    | none => simp
    | some t =>
      have ht := Time.Instant.hasForm_iff (t := t)
      cases hv : t.write? <;> simp_all
  have hall : (∀ t ∈ c.times, t.HasForm) ↔ (∃ vs, c.entries.mapM Entry.toJson? = some vs) ∧
      (∃ v, c.position.mapM Position.toJson? = some v) ∧
      ((∃ s, c.createdAt.write? = some s) ∧ (∃ s, c.updatedAt.write? = some s)) ∧
      ∃ s, c.lastReadAt.mapM Time.Instant.write? = some s := by
    rw [hentries, hposition, hread, ← Time.Instant.hasForm_iff, ← Time.Instant.hasForm_iff, times,
      List.forall_mem_append, List.forall_mem_append, List.forall_mem_append]
    simp
  rw [hall]
  unfold toJson?
  cases c.entries.mapM Entry.toJson? <;> cases c.position.mapM Position.toJson? <;>
    cases c.createdAt.write? <;> cases c.updatedAt.write? <;>
    cases c.lastReadAt.mapM Time.Instant.write? <;> simp

/-- A card is read back from its document. -/
theorem ofJson?_of_toJson? {c : Card} {v : Json} (hnear : ∀ t ∈ c.times, t.Near)
    (h : c.toJson? = some v) : ofJson? v = some c := by
  unfold toJson? at h
  simp only [Option.bind_eq_bind, Option.bind_eq_some_iff, Option.pure_def,
    Option.some.injEq] at h
  obtain ⟨entries, hentries, position, hposition, createdAt, hcreated, updatedAt, hupdated,
    lastReadAt, hlastRead, rfl⟩ := h
  simp only [times, List.forall_mem_append, List.forall_mem_cons] at hnear
  obtain ⟨hnearEntries, hnearPosition, ⟨hnearCreated, hnearUpdated, -⟩, hnearRead⟩ := hnear
  unfold ofJson?
  rw [record?_object]
  generalize hf : (Fields.mk (member? _) true : Fields Json) = f
  rw [Option.bind_eq_bind, Option.bind_some]
  have hid : f.required "id" Json.text? = some c.id :=
    required_of_some (v := .str c.id) (by simp [← hf]) rfl
  have hlane : f.required "groupId" Json.text? = some c.laneId :=
    required_of_some (v := .str c.laneId) (by simp [← hf]) rfl
  have hname : f.required "contactName" Json.text? = some c.contactName :=
    required_of_some (v := .str c.contactName) (by simp [← hf]) rfl
  have hnumber : f.optional "contactNumber" Json.text? = some c.contactNumber :=
    optional_of_readsBack readsBack_text (by simp [← hf])
  have hphone : f.optional "normalizedPhone" Json.text? = some c.phone :=
    optional_of_readsBack readsBack_text (by simp [← hf])
  have haddresses : f.defaulted "platform_ids" PerPlatform.none
      (PerPlatform.ofJson? Json.text?) = some c.addresses :=
    defaulted_of_some (v := c.addresses.toJson Json.str) (by simp [← hf])
      (PerPlatform.ofJson?_toJson readsBack_text.back c.addresses)
  have hdetails : f.defaulted "platform_metadata" PerPlatform.none
      (PerPlatform.ofJson? some) = some c.details :=
    defaulted_of_some (v := c.details.toJson fun v => v) (by simp [← hf])
      (PerPlatform.ofJson?_toJson (fun _ => rfl) c.details)
  have hlast : f.defaulted "lastMessage" "" Json.text? = some c.lastMessage :=
    defaulted_of_some (v := .str c.lastMessage) (by simp [← hf]) rfl
  have hlines : f.defaulted "messages" [] (Document.list? Entry.ofJson?) = some c.entries :=
    defaulted_of_some (v := .arr entries) (by simp [← hf]) (mapM_of_mapM hentries fun e he v hv =>
      Entry.ofJson?_of_toJson? (hnearEntries _ (List.mem_map_of_mem he)) hv)
  have hpos : f.optional "botState" Position.ofJson? = some c.position := by
    have hv : f.value? "botState" = position := by simp [← hf]
    cases hp : c.position with
    | none =>
      rw [hp] at hposition
      cases hposition
      simp [Fields.optional, Fields.defaulted, hv]
    | some p =>
      rw [hp] at hposition hnearPosition
      simp only [Option.mapM_some, Option.map_eq_map, Option.map_eq_some_iff] at hposition
      obtain ⟨v, hpv, rfl⟩ := hposition
      have hback := Position.ofJson?_of_toJson? (hnearPosition _ (by simp)) hpv
      have hgiven : Document.isNull v = false := Position.isNull_of_toJson? hpv
      simp [Fields.optional, Fields.defaulted, hv, Fields.nullable, hback, hgiven]
  have hfields : f.defaulted "customFields" Catalog.empty
      (Document.dictionary? Json.text?) = some c.fields :=
    defaulted_of_some (v := Json.object (c.fields.items.map fun x => (x.1, .str x.2)))
      (by simp [← hf]) (dictionary?_object c.fields)
  have hcreatedAt : f.required "createdAt" Document.instant? = some c.createdAt :=
    required_of_some (v := .str createdAt) (by simp [← hf])
      (Time.Instant.instant?_of_write? hnearCreated hcreated)
  have hupdatedAt : f.required "updatedAt" Document.instant? = some c.updatedAt :=
    required_of_some (v := .str updatedAt) (by simp [← hf])
      (Time.Instant.instant?_of_write? hnearUpdated hupdated)
  have hreadAt : f.optional "lastReadAt" Document.instant? = some c.lastReadAt :=
    optional_instant (by simpa using hnearRead) hlastRead (by simp [← hf])
  have hplatform : f.optional "last_interaction_source" Document.platform? =
      some c.lastPlatform := optional_of_readsBack readsBack_platform (by simp [← hf])
  have hkind : f.optional "last_interaction_type" Document.contentKind? = some c.lastKind :=
    optional_of_readsBack readsBack_kind (by simp [← hf])
  rw [hid, hlane, hname, hnumber, hphone, haddresses, hdetails, hlast, hlines, hpos, hfields,
    hcreatedAt, hupdatedAt, hreadAt, hplatform, hkind]
  rfl

/-- The document of a card is plain if the details on it are. -/
theorem plain_of_toJson? {c : Card} {v : Json}
    (hdetails : ∀ p w, c.details p = some w → Plain 1 w) (h : c.toJson? = some v) :
    Plain 4 v := by
  unfold toJson? at h
  simp only [Option.bind_eq_bind, Option.bind_eq_some_iff, Option.pure_def,
    Option.some.injEq] at h
  obtain ⟨entries, hentries, position, hposition, createdAt, -, updatedAt, -, lastReadAt, -, rfl⟩ :=
    h
  have hperPlatform : ∀ {α : Type} (write : α → Json) (m : PerPlatform α),
      (∀ p x, m p = some x → Plain 1 (write x)) → Plain 3 (m.toJson write) := by
    intro α write m hm
    refine (plain_object fun x hx => ?_).mono (Nat.le_succ 2)
    obtain ⟨⟨p, y⟩, hy, rfl⟩ := List.mem_map.1 hx
    obtain ⟨q, -, hq⟩ := List.mem_filterMap.1 hy
    obtain ⟨z, hz, hzy⟩ := Option.map_eq_some_iff.1 hq
    obtain ⟨rfl, rfl⟩ := Prod.mk.inj hzy
    exact hm q z hz
  have hlines : Plain 3 (.arr entries) := by
    refine .arr fun v hv => ?_
    obtain ⟨e, -, he⟩ := mem_of_mapM hentries v hv
    exact Entry.plain_of_toJson? he
  have hfields : Plain 3 (Json.object (c.fields.items.map fun x => (x.1, .str x.2))) := by
    refine plain_object fun x hx => ?_
    obtain ⟨y, -, rfl⟩ := List.mem_map.1 hx
    exact .str 2 y.2
  have hpos : ∀ v, position = some v → Plain 3 v := by
    rintro v rfl
    cases hp : c.position with
    | none => rw [hp] at hposition; cases hposition
    | some p =>
      rw [hp] at hposition
      simp only [Option.mapM_some, Option.map_eq_map, Option.map_eq_some_iff,
        Option.some.injEq] at hposition
      obtain ⟨w, hw, rfl⟩ := hposition
      exact (Position.plain_of_toJson? hw).mono (by decide)
  refine plain_object ?_
  simp only [List.forall_mem_append, forall_mem_present, List.forall_mem_cons]
  exact ⟨⟨.str 3 _, .str 3 _, .str 3 _, hperPlatform _ _ fun _ _ _ => .str 1 _,
    hperPlatform _ _ hdetails, .str 3 _, hlines, hfields, .str 3 _, .str 3 _, by simp⟩,
    plain_map_str 3 _ _, plain_map_str 3 _ _, hpos, plain_map_str 3 _ _, plain_map_str 3 _ _,
    plain_map_str 3 _ _, by simp⟩

end Card

end Switchboard
