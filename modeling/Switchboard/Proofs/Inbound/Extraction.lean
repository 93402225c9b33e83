import Switchboard.Proofs.Inbound.Labels
import Switchboard.Proofs.Places

/-!
# Messages of a delivery

A delivery of WhatsApp, of a page or of X holds many messages, in arrays within arrays. The messages
that are read from it are those of its places, in the order of the places (`InOrder`): none is lost,
none comes twice, and a part that is missing or of the wrong type has no places in it, whatever
stands beside it. Of the messages of a page its own echoes are left out, and of those on X what the
account of the delivery sent, if the delivery names one (`Inbound.collects_in_order`).
-/

namespace Switchboard

-- ---------------------------------------------------------------------------
-- Parts of payloads
-- ---------------------------------------------------------------------------

namespace Json

/-- What stands at the path is a text or a number, which counts as its text. -/
def GivesId (v : Json) (path : List String) (s : String) : Prop :=
  v.at? path = some (.str s) ∨ ∃ n, v.at? path = some (.num n) ∧ n.text = s

end Json

namespace Inbound

variable {v : Json} {name : String} {path : List String} {s : String}

theorem getElem?_itemsOf {i : ℕ} {w : Json} :
    (itemsOf v name)[i]? = some w ↔ v.HasItem name i w := by
  unfold Json.HasItem itemsOf partOf
  rcases v.field? name with _ | _ | _ | _ | _ | _ | _ <;> simp [Json.items, Json.items?]

theorem textAt?_singleton : textAt? v [name] = some s ↔ v.field? name = some (.str s) := by
  unfold textAt? Json.at?
  rcases v.field? name with _ | _ | _ | _ | _ | _ | _ <;> simp [Json.at?, Json.text?]

theorem idAt?_eq_some : idAt? v path = some s ↔ v.GivesId path s ∧ s ≠ "" := by
  unfold idAt? Json.GivesId
  rcases v.at? path with _ | _ | _ | _ | _ | _ | _ <;>
    simp [Json.scalarText?, Option.filter_eq_some_iff]

/-- The sender is the id at a path of what was sent, and nobody if there is none. -/
def SentBy (v : Json) (path : List String) (m : Message) : Prop :=
  v.GivesId path m.sender ∨ m.sender = "" ∧ ∀ s, ¬ v.GivesId path s

theorem sentBy_of_eq {m : Message} (h : m.sender = (idAt? v path).getD "") :
    SentBy v path m := by
  unfold SentBy
  rw [h]
  cases hid : idAt? v path with
  | some s => exact .inl (idAt?_eq_some.1 hid).1
  | none =>
    by_cases hgives : ∃ s, v.GivesId path s
    · obtain ⟨s, hs⟩ := hgives
      have hempty : s = "" := by
        by_contra hne
        rw [idAt?_eq_some.2 ⟨hs, hne⟩] at hid
        cases hid
      exact .inl (hempty ▸ hs)
    · exact .inr ⟨rfl, not_exists.1 hgives⟩

-- ---------------------------------------------------------------------------
-- WhatsApp
-- ---------------------------------------------------------------------------

variable (received : Time.Instant) (payload : Json)

namespace WhatsApp

/-- The places are the items of the message arrays: entry, change, item. -/
def Gives : ℕ × ℕ × ℕ → Message → Prop
  | (e, c, i), m => ∃ entry change value v,
    payload.HasItem "entry" e entry ∧ entry.HasItem "changes" c change ∧
      change.field? "value" = some value ∧ value.HasItem "messages" i v ∧
      m = message received (senderName? (itemsOf value "contacts") v) (value.field? "metadata") v ∧
      SentBy v ["from"] m

theorem messages_inOrder : InOrder (Prod.Lex Nat.lt (Prod.Lex Nat.lt Nat.lt))
    (Gives received payload) (messages received payload) := by
  have hwalk := InOrder.flatMap (itemsOf payload "entry") fun entry =>
    InOrder.flatMap_filterMap (itemsOf entry "changes") (Json.field? · "value") fun value =>
      InOrder.map (itemsOf value "messages") fun v =>
        message received (senderName? (itemsOf value "contacts") v) (value.field? "metadata") v
  unfold messages values
  rw [List.flatMap_assoc]
  refine hwalk.congr ?_
  rintro ⟨e, c, i⟩ m
  simp only [getElem?_itemsOf]
  constructor
  · rintro ⟨entry, hentry, change, hchange, value, hvalue, v, hv, rfl⟩
    exact ⟨entry, change, value, v, hentry, hchange, hvalue, hv, rfl,
      sentBy_of_eq (message_origin ..).2⟩
  · rintro ⟨entry, change, value, v, hentry, hchange, hvalue, hv, rfl, -⟩
    exact ⟨entry, hentry, change, hchange, value, hvalue, v, hv, rfl⟩

end WhatsApp

-- ---------------------------------------------------------------------------
-- Messenger and Instagram
-- ---------------------------------------------------------------------------

namespace Meta

/-- An event that says something, and is not what the page itself said. -/
structure Speaking (event : Json) : Prop where
  content : (∃ v, event.field? "message" = some v) ∨ ∃ v, event.field? "postback" = some v
  unechoed : event.at? ["message", "is_echo"] ≠ some (.bool true)

/-- The change is a comment, with what it says. -/
structure Commented (change value : Json) : Prop where
  field : change.field? "field" = some (.str "comments") ∨
    change.field? "field" = some (.str "feed")
  value : change.field? "value" = some value

/-- The places of an entry are its events, and its changes behind them. -/
def Gives : ℕ × (ℕ ⊕ ℕ) → Message → Prop
  | (e, .inl i), m => ∃ entry event,
    payload.HasItem "entry" e entry ∧ entry.HasItem "messaging" i event ∧ Speaking event ∧
      m = message received (platform payload) event ∧ SentBy event ["sender", "id"] m
  | (e, .inr i), m => ∃ entry change value,
    payload.HasItem "entry" e entry ∧ entry.HasItem "changes" i change ∧ Commented change value ∧
      m = comment received (platform payload) value ∧ SentBy value ["from", "id"] m

theorem isEcho_iff {event : Json} :
    isEcho event = true ↔ event.at? ["message", "is_echo"] = some (.bool true) := by
  unfold isEcho
  rcases event.at? ["message", "is_echo"] with _ | _ | _ | _ | _ | _ | _ <;> simp [Json.flag?]

theorem speaks_iff {event : Json} : speaks event = true ↔ Speaking event := by
  have hcontent : speaks event = true ↔
      ¬ isEcho event = true ∧
        ((event.field? "message").isSome = true ∨ (event.field? "postback").isSome = true) := by
    simp [speaks]
  rw [hcontent, isEcho_iff, Option.isSome_iff_exists, Option.isSome_iff_exists]
  exact ⟨fun h => ⟨h.2, h.1⟩, fun h => ⟨h.unechoed, h.content⟩⟩

theorem commentOf?_eq_some {change value : Json} :
    commentOf? change = some value ↔ Commented change value := by
  have hfield : commentOf? change = some value ↔
      (textAt? change ["field"] = some "comments" ∨ textAt? change ["field"] = some "feed") ∧
        change.field? "value" = some value := by
    unfold commentOf?
    split <;> simp_all
  rw [hfield, textAt?_singleton, textAt?_singleton]
  exact ⟨fun h => ⟨h.1, h.2⟩, fun h => ⟨h.field, h.value⟩⟩

theorem messages_inOrder : InOrder (Prod.Lex Nat.lt (Sum.Lex Nat.lt Nat.lt))
    (Gives received payload) (messages received payload) := by
  have hwalk := InOrder.flatMap (itemsOf payload "entry") fun entry =>
    (InOrder.filterMap (itemsOf entry "messaging") fun event =>
      if speaks event then some (message received (platform payload) event) else none).append
    (InOrder.filterMap (itemsOf entry "changes") fun change =>
      (commentOf? change).map (comment received (platform payload)))
  have hmessages : messages received payload = (itemsOf payload "entry").flatMap fun entry =>
      ((itemsOf entry "messaging").filterMap fun event =>
        if speaks event then some (message received (platform payload) event) else none) ++
      (itemsOf entry "changes").filterMap fun change =>
        (commentOf? change).map (comment received (platform payload)) := by
    simp [messages, ← List.map_filterMap, ← List.filterMap_filter]
  rw [hmessages]
  refine hwalk.congr ?_
  rintro ⟨e, i | i⟩ m
  · simp only [getElem?_itemsOf, Sum.elim_inl, Option.ite_none_right_eq_some, speaks_iff]
    constructor
    · rintro ⟨entry, hentry, event, hevent, hspeaks, ⟨⟩⟩
      exact ⟨entry, event, hentry, hevent, hspeaks, rfl, sentBy_of_eq (message_origin ..).2⟩
    · rintro ⟨entry, event, hentry, hevent, hspeaks, rfl, -⟩
      exact ⟨entry, hentry, event, hevent, hspeaks, rfl⟩
  · simp only [getElem?_itemsOf, Sum.elim_inr, Option.map_eq_some_iff, commentOf?_eq_some]
    constructor
    · rintro ⟨entry, hentry, change, hchange, value, hvalue, rfl⟩
      exact ⟨entry, change, value, hentry, hchange, hvalue, rfl, sentBy_of_eq rfl⟩
    · rintro ⟨entry, change, value, hentry, hchange, hvalue, rfl, -⟩
      exact ⟨entry, hentry, change, hchange, value, hvalue, rfl⟩

end Meta

-- ---------------------------------------------------------------------------
-- X
-- ---------------------------------------------------------------------------

namespace X

variable (isId : String → Prop)

/-- The event was sent by the account of the delivery, where `isId` says what can be an id. -/
def Own (event : Json) : Prop :=
  ∃ s, isId s ∧ payload.GivesId ["for_user_id"] s ∧ event.GivesId ["message_create", "sender_id"] s

/-- The message of an event, whoever sent it. -/
def reading (event : Json) : Message :=
  let create := partOf event "message_create"
  let sender := (idAt? create ["sender_id"]).getD ""
  withContent (partOf create "message_data") (envelope received sender
    ((payload.field? "users").bind fun users => users.field? sender) event create)

/-- The places are the events with a message that the account itself did not send. -/
def Gives (i : ℕ) (m : Message) : Prop :=
  ∃ event, payload.HasItem "direct_message_events" i event ∧
    event.field? "type" = some (.str "message_create") ∧ ¬ Own payload isId event ∧
    m = reading received payload event ∧ SentBy event ["message_create", "sender_id"] m

variable {payload}

theorem idAt?_create (event : Json) :
    idAt? (partOf event "message_create") ["sender_id"] =
      idAt? event ["message_create", "sender_id"] := by
  rw [idAt?, idAt?, at?_partOf]

theorem own_iff {event : Json} :
    Own payload (· ≠ "") event ↔
      idAt? payload ["for_user_id"] =
        some ((idAt? (partOf event "message_create") ["sender_id"]).getD "") := by
  rw [idAt?_create]
  constructor
  · rintro ⟨s, hs, haccount, hsender⟩
    rw [idAt?_eq_some.2 ⟨haccount, hs⟩, idAt?_eq_some.2 ⟨hsender, hs⟩, Option.getD_some]
  · intro h
    obtain ⟨haccount, hs⟩ := idAt?_eq_some.1 h
    cases hsender : idAt? event ["message_create", "sender_id"] with
    | none => simp [hsender] at hs
    | some s =>
      rw [hsender] at haccount hs
      exact ⟨s, hs, haccount, (idAt?_eq_some.1 hsender).1⟩

theorem sender_reading (event : Json) : (reading received payload event).sender =
    (idAt? event ["message_create", "sender_id"]).getD "" := by
  rw [← idAt?_create]
  unfold reading withContent
  dsimp only
  split <;> rfl

theorem message?_eq_some_iff {event : Json} {m : Message} :
    message? received (idAt? payload ["for_user_id"]) (payload.field? "users") event = some m ↔
      event.field? "type" = some (.str "message_create") ∧ ¬ Own payload (· ≠ "") event ∧
        m = reading received payload event := by
  rw [own_iff, ← textAt?_singleton]
  unfold message?
  dsimp only
  split
  · simp_all
  · split
    · simp_all
    · simp_all [reading, eq_comm]

theorem messages_inOrder :
    InOrder Nat.lt (Gives received payload (· ≠ "")) (messages received payload) := by
  refine (InOrder.filterMap _ _).congr fun i m => ?_
  simp only [getElem?_itemsOf, message?_eq_some_iff]
  constructor
  · rintro ⟨event, hevent, htype, hown, rfl⟩
    exact ⟨event, hevent, htype, hown, rfl, sentBy_of_eq (sender_reading ..)⟩
  · rintro ⟨event, hevent, htype, hown, hm, -⟩
    exact ⟨event, hevent, htype, hown, hm⟩

theorem foreign_of_gives {i : ℕ} {m : Message} (h : Gives received payload (· ≠ "") i m)
    {s : String} (hs : s ≠ "") (haccount : payload.GivesId ["for_user_id"] s) : m.sender ≠ s := by
  obtain ⟨event, -, -, hown, -, hsender | ⟨hnobody, -⟩⟩ := h
  · rintro rfl
    exact hown ⟨m.sender, hs, haccount, hsender⟩
  · rw [hnobody]
    exact hs.symm

end X

-- ---------------------------------------------------------------------------
-- Deliveries
-- ---------------------------------------------------------------------------

/-- The messages of a delivery are those of its places, in their order, whichever platform it is
read for. What a place gives depends on what leads to it, and on nothing beside it. -/
structure Collects (isId : String → Prop) : Prop where
  whatsApp : InOrder (Prod.Lex Nat.lt (Prod.Lex Nat.lt Nat.lt)) (WhatsApp.Gives received payload)
    (WhatsApp.messages received payload)
  page : InOrder (Prod.Lex Nat.lt (Sum.Lex Nat.lt Nat.lt)) (Meta.Gives received payload)
    (Meta.messages received payload)
  x : InOrder Nat.lt (X.Gives received payload isId) (X.messages received payload)
  /-- Nothing on X comes from the account of the delivery. -/
  foreign : ∀ m ∈ X.messages received payload, ∀ s, isId s →
    payload.GivesId ["for_user_id"] s → m.sender ≠ s

/-- Every delivery is read in order, and an account is a text that is not empty, or a number. -/
theorem collects_in_order : Collects received payload (· ≠ "") where
  whatsApp := WhatsApp.messages_inOrder received payload
  page := Meta.messages_inOrder received payload
  x := X.messages_inOrder received
  foreign := fun _ hm _ hs haccount =>
    have ⟨_, hgives⟩ := (X.messages_inOrder received).mem_iff.1 hm
    X.foreign_of_gives received hgives hs haccount

/-- A message from an account with an empty id. -/
def unsigned : Json := Json.object [
  ("type", .str "message_create"), ("message_create", Json.object [("sender_id", .str "")])]

/-- A delivery for an account with an empty id, which holds the message. -/
def unaddressed : Json := Json.object [
  ("for_user_id", .str ""), ("direct_message_events", .arr [unsigned])]

/-- The empty text names no account, so the message is not left out of the delivery. -/
theorem empty_account_not_left_out : ¬ Collects ⟨0, 0⟩ unaddressed fun _ => True := by
  intro h
  have hread : X.reading ⟨0, 0⟩ unaddressed unsigned ∈ X.messages ⟨0, 0⟩ unaddressed :=
    List.mem_singleton.2 rfl
  exact h.foreign _ hread "" trivial (.inl rfl) rfl

end Inbound

end Switchboard
