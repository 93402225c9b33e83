import Switchboard.Proofs.Desk.OneCard
import Switchboard.Proofs.Dialogue.Lines

/-!
# Upkeep of cards

Receipts, the lines of operators and bots, and all that bots keep leave a card to its contact: what
is known of them, what they wrote and where they last wrote from (`Card.Attended`). So between two
messages the register of contacts stays as it is, and a contact whose messages are filed is found,
on the card where these are (`Register.Kept.find?_eq`).
-/

namespace Switchboard

/-- A change that also leaves where the contact last wrote from. -/
structure Card.Attended (c c' : Card) : Prop extends c.Tended false c' where
  lastPlatform : c'.lastPlatform = c.lastPlatform

/-- The same cards are on both desks, only attended to. -/
def Desk.Attended (d d' : Desk) : Prop :=
  ∀ id, Option.Rel Card.Attended (d.card? id) (d'.card? id)

-- ---------------------------------------------------------------------------
-- One card
-- ---------------------------------------------------------------------------

namespace Card

variable {c c' c'' : Card}

theorem Attended.refl (c : Card) : c.Attended c := ⟨.refl false c, rfl⟩

theorem Attended.trans (h : c.Attended c') (h' : c'.Attended c'') : c.Attended c'' where
  addresses := h'.addresses.trans h.addresses
  number := h'.number.trans h.number
  phone := h'.phone.trans h.phone
  lines _ := (h'.lines rfl).trans (h.lines rfl)
  lastPlatform := h'.lastPlatform.trans h.lastPlatform

theorem Attended.touch (h : c.Attended c') (now : Time.Instant) : c.Attended (c'.touch now) :=
  { h with lines := h.lines }

theorem attended_answered (c : Card) {author : Author} (hauthor : author ≠ .contact)
    (text : String) (now : Time.Instant) :
    c.Attended ((c.append (Desk.outboundEntry c author text now)).touch now) := by
  have htended := c.tended_append author text now
  rw [beq_eq_false_iff_ne.2 hauthor] at htended
  have happended : c.Attended (c.append (Desk.outboundEntry c author text now)) := ⟨htended, rfl⟩
  exact happended.touch now

theorem attended_renamed (c : Card) (name : String) (now : Time.Instant) :
    c.Attended (c.renamed name now) := by
  unfold renamed
  split
  · exact .refl c
  · exact ⟨⟨rfl, rfl, rfl, fun _ => rfl⟩, rfl⟩

end Card

/-- Whatever a bot writes on a card leaves it to its contact. -/
theorem Action.attended_write (t : Turn) (now : Time.Instant) (c : Card) (a : Action) :
    c.Attended (a.write t now c) := by
  cases a with
  | note text => exact c.attended_answered (by rintro ⟨⟩) text now
  | rename name => exact c.attended_renamed name now
  | _ => exact ⟨⟨rfl, rfl, rfl, fun _ => rfl⟩, rfl⟩

-- ---------------------------------------------------------------------------
-- The desk
-- ---------------------------------------------------------------------------

namespace Desk

variable {d d' d'' : Desk} {c c' : Card} {id : String} {now : Time.Instant}

theorem Attended.refl (d : Desk) : d.Attended d := by
  intro id
  cases d.card? id with
  | none => exact .none
  | some c => exact .some (.refl c)

theorem Attended.after (h : d.Attended d') (hc : d.card? id = some c) :
    ∃ c', d'.card? id = some c' ∧ c.Attended c' := by
  have hrel := h id
  rw [hc] at hrel
  generalize d'.card? id = x at hrel ⊢
  cases hrel with
  | some ht => exact ⟨_, rfl, ht⟩

theorem Attended.before (h : d.Attended d') (hc : d'.card? id = some c) :
    ∃ c', d.card? id = some c' ∧ c'.Attended c := by
  have hrel := h id
  rw [hc] at hrel
  generalize d.card? id = x at hrel ⊢
  cases hrel with
  | some ht => exact ⟨_, rfl, ht⟩

theorem Attended.trans (h : d.Attended d') (h' : d'.Attended d'') : d.Attended d'' := by
  intro id
  cases hc : d.card? id with
  | none =>
    cases hc'' : d''.card? id with
    | none => exact .none
    | some c'' =>
      obtain ⟨c', hc', -⟩ := h'.before hc''
      obtain ⟨c, hsome, -⟩ := h.before hc'
      rw [hc] at hsome
      cases hsome
  | some c =>
    obtain ⟨c', hc', hattended⟩ := h.after hc
    obtain ⟨c'', hc'', hattended'⟩ := h'.after hc'
    rw [hc'']
    exact .some (hattended.trans hattended')

theorem Attended.tended (h : d.Attended d') : d.Tended false d' := by
  intro id
  have hrel := h id
  generalize d.card? id = x at hrel ⊢
  generalize d'.card? id = y at hrel ⊢
  cases hrel with
  | none => exact .none
  | some ht => exact .some ht.toTended

theorem attended_withCard (h : d.card? c.id = some c) (hid : c'.id = c.id)
    (ht : c.Attended c') : d.Attended (d.withCard c') := by
  intro id
  rw [card?_withCard]
  split
  next hid' =>
    obtain rfl : c.id = id := hid.symm.trans hid'
    rw [h]
    exact .some ht
  next => exact Attended.refl d id

theorem attended_markRead {p : Platform} {sender : String} {found : Option String}
    (h : d.markRead p sender now = .ok (found, d')) : d.Attended d' := by
  rcases markRead_cases d p sender now with he | ⟨c, hc, he⟩ <;> rw [he] at h <;> cases h
  · exact .refl d
  · exact attended_withCard hc rfl ⟨⟨rfl, rfl, rfl, fun _ => rfl⟩, rfl⟩

theorem attended_appendOutbound {author : Author} {text : String} (hauthor : author ≠ .contact)
    (h : d.appendOutbound id author text now = .ok (c', d')) : d.Attended d' := by
  cases hc : d.card? id with
  | none =>
    unfold appendOutbound at h
    rw [change_of_none hc] at h
    cases h
  | some c =>
    rw [appendOutbound_of_card? hc] at h
    cases h
    obtain rfl := id_of_card? hc
    exact attended_withCard hc rfl (c.attended_answered hauthor text now)

end Desk

-- ---------------------------------------------------------------------------
-- The register
-- ---------------------------------------------------------------------------

/-- The key of the contact who sent a message. -/
def Filed.key (x : Filed) : String := contactKey x.message.platform x.message.sender

namespace Register

variable {r : Register} {d : Desk} {x : Filed} {p : Platform} {sender : String}

/-- Of the keys that ids were made of it only matters which are among them. -/
theorem Kept.mono (h : r.Kept) {keys : List String} (hsub : ∀ key ∈ r.hashed, key ∈ keys) :
    Kept { r with hashed := keys } where
  named x hx := by
    obtain ⟨p, e, hpe, hkey, hid⟩ := h.named x hx
    exact ⟨p, e, hpe, hsub _ hkey, hid⟩
  belongs := h.belongs
  owned := h.owned
  together := h.together
  firsts := h.firsts

/-- A contact whose messages are filed is found, on the card where these are. -/
theorem Kept.find?_eq (h : r.Kept) (hx : x ∈ r.filed) (hcontact : Contact.of p sender = x.contact)
    (hsender : sender ≠ "") : r.desk.find? p sender = r.desk.card? x.cardId := by
  cases hfound : r.desk.find? p sender with
  | none =>
    obtain ⟨c, hc, hbelongs⟩ := h.belongs x hx
    exact absurd hcontact (Desk.contact_ne_of_find? hfound hsender hc hbelongs)
  | some c =>
    have hc := (Desk.find?_some hfound).1
    obtain ⟨y, hy, hid⟩ := h.owned c.id c hc
    obtain ⟨c', hc', hbelongs⟩ := h.belongs y hy
    obtain rfl : c = c' := Option.some.inj (hc.symm.trans (hid ▸ hc'))
    have hsame : y.contact = x.contact :=
      (Desk.contact_of_find? hfound hbelongs.toSuits).symm.trans hcontact
    rw [← h.together y hy x hx hsame, hid, hc]

/-- A contact of whom no message is filed is not found. -/
theorem Kept.find?_eq_none (h : r.Kept) (hnone : ∀ x ∈ r.filed, Contact.of p sender ≠ x.contact) :
    r.desk.find? p sender = none := by
  cases hfound : r.desk.find? p sender with
  | none => rfl
  | some c =>
    have hc := (Desk.find?_some hfound).1
    obtain ⟨y, hy, hid⟩ := h.owned c.id c hc
    obtain ⟨c', hc', hbelongs⟩ := h.belongs y hy
    obtain rfl : c = c' := Option.some.inj (hc.symm.trans (hid ▸ hc'))
    exact absurd (Desk.contact_of_find? hfound hbelongs.toSuits) (hnone y hy)

end Register

end Switchboard
