import Switchboard.Proofs.Desk.Cards

/-!
# Positions on the desk

Where the conversations of all cards stand, and what they learned. A message, a receipt and the line
of an operator leave both as they are (`Undisturbed`), and the card of a new contact has neither
(`receive_landed`).
-/

namespace Switchboard

theorem Message.addTo_position (m : Message) (now : Time.Instant) (c : Card) :
    (m.addTo now c).position = c.position := rfl

theorem Message.addTo_fields (m : Message) (now : Time.Instant) (c : Card) :
    (m.addTo now c).fields = c.fields := rfl

theorem Message.addTo_entries (m : Message) (now : Time.Instant) (c : Card) :
    (m.addTo now c).entries = c.entries ++ [m.entry] := rfl

/-- A contact can be reached where they last wrote from, at the address they gave. -/
theorem Message.recipient?_addTo (m : Message) (now : Time.Instant) (c : Card) :
    (m.addTo now c).recipient? m.platform = some m.sender := by
  have haddress : (m.addTo now c).addresses m.platform = some m.sender :=
    PerPlatform.set_self c.addresses m.platform m.sender
  unfold Card.recipient?
  rw [haddress]

namespace Desk

/-- The position of the card with an id. -/
def position? (d : Desk) (id : String) : Option Position := (d.card? id).bind Card.position

/-- What the card with an id has learned; nothing where there is no card. -/
def fields (d : Desk) (id : String) : Dictionary String :=
  ((d.card? id).map Card.fields).getD Catalog.empty

variable {d d' : Desk} {c : Card} {id keyword : String} {m : Message} {a : Arrival}
  {now : Time.Instant}

theorem position?_of_card? (h : d.card? id = some c) : d.position? id = c.position := by
  rw [position?, h, Option.bind_some]

theorem position?_of_vacant (h : d.card? id = none) : d.position? id = none := by
  rw [position?, h, Option.bind_none]

theorem position?_withCard (d : Desk) (c : Card) (id : String) :
    (d.withCard c).position? id = if c.id = id then c.position else d.position? id := by
  unfold position?
  rw [card?_withCard]
  split <;> rfl

theorem positions_withCard (h : c.position = d.position? c.id) :
    (d.withCard c).position? = d.position? := by
  funext id
  rw [position?_withCard]
  split
  next hid => rw [h, hid]
  next => rfl

theorem fields_of_card? (h : d.card? id = some c) : d.fields id = c.fields := by
  rw [fields, h, Option.map_some, Option.getD_some]

theorem fields_of_vacant (h : d.card? id = none) : d.fields id = Catalog.empty := by
  rw [fields, h, Option.map_none, Option.getD_none]

theorem fields_withCard (h : c.fields = d.fields c.id) : (d.withCard c).fields = d.fields := by
  funext id
  rw [fields, card?_withCard]
  split
  next hid => rw [← hid, ← h, Option.map_some, Option.getD_some]
  next => rfl

-- ---------------------------------------------------------------------------
-- Changes that leave them
-- ---------------------------------------------------------------------------

/-- A message that lands is put on the card that was there, or on a new one. -/
theorem receive_landed (h : d.receive keyword m now = .ok (a, d')) :
    ∃ c, c.id = a.cardId ∧ d' = d.withCard (m.addTo now c) ∧
      (a.isNew = false ∧ d.card? a.cardId = some c ∨
        a.isNew = true ∧ d.card? a.cardId = none ∧
          ∃ lane, c = m.blankCard a.cardId lane now) := by
  rcases receive_cases d keyword m now with ⟨e, he⟩ | ⟨c, hc, -, he⟩ | ⟨lane, -, hnone, -, he⟩
  · rw [he] at h
    cases h
  · rw [he] at h
    cases h
    exact ⟨c, rfl, rfl, .inl ⟨rfl, hc⟩⟩
  · -- the id need not be computed
    generalize contactCardId m.platform m.sender = id at hnone he
    rw [he] at h
    cases h
    exact ⟨_, rfl, rfl, .inr ⟨rfl, hnone, lane, rfl⟩⟩

/-- Every conversation stands where it stood, and has learned nothing. -/
structure Undisturbed (d d' : Desk) : Prop where
  positions : d'.position? = d.position?
  fields : d'.fields = d.fields

theorem Undisturbed.refl (d : Desk) : d.Undisturbed d := ⟨rfl, rfl⟩

theorem undisturbed_withCard {c' : Card} (h : d.card? c'.id = some c)
    (position : c'.position = c.position) (fields : c'.fields = c.fields) :
    d.Undisturbed (d.withCard c') where
  positions := positions_withCard (position.trans (position?_of_card? h).symm)
  fields := fields_withCard (fields.trans (fields_of_card? h).symm)

theorem undisturbed_receive (h : d.receive keyword m now = .ok (a, d')) : d.Undisturbed d' := by
  obtain ⟨c, hid, rfl, hcard⟩ := receive_landed h
  rcases hcard with ⟨-, hc⟩ | ⟨-, hnone, lane, rfl⟩
  · rw [← hid] at hc
    exact undisturbed_withCard hc rfl rfl
  · rw [← hid] at hnone
    refine ⟨positions_withCard ?_, fields_withCard ?_⟩
    · rw [Message.addTo_position, Message.addTo_id, position?_of_vacant hnone]
      rfl
    · rw [Message.addTo_fields, Message.addTo_id, fields_of_vacant hnone]
      rfl

theorem positions_receive (h : d.receive keyword m now = .ok (a, d')) :
    d'.position? = d.position? := (undisturbed_receive h).positions

theorem undisturbed_markRead {p : Platform} {sender : String} {found : Option String}
    (h : d.markRead p sender now = .ok (found, d')) : d.Undisturbed d' := by
  rcases markRead_cases d p sender now with he | ⟨c, hc, he⟩ <;> rw [he] at h <;> cases h
  · exact .refl d
  · exact undisturbed_withCard hc rfl rfl

theorem undisturbed_appendOutbound {author : Author} {text : String}
    (h : d.appendOutbound id author text now = .ok (c, d')) : d.Undisturbed d' := by
  cases hc : d.card? id with
  | none =>
    unfold appendOutbound at h
    rw [change_of_none hc] at h
    cases h
  | some b =>
    rw [appendOutbound_of_card? hc] at h
    cases h
    obtain rfl := id_of_card? hc
    exact undisturbed_withCard hc rfl rfl

end Desk

end Switchboard
