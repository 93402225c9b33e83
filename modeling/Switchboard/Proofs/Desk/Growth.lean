import Switchboard.Proofs.Desk.Cards

/-!
# Cards only grow

A desk evolves when every card on it stays, grown or as it was, and when cards that told the truth
about their history still do. Evolving composes, so a statement about any number of operations needs
one lemma for each of them: `receive_evolves` for the messages of contacts, and a lemma that goes
through `change_evolves` for each of the others.
-/

namespace Switchboard

-- ---------------------------------------------------------------------------
-- One card
-- ---------------------------------------------------------------------------

/-- What a later state of a card keeps of an earlier one. -/
structure Card.Grows (c c' : Card) : Prop where
  id : c'.id = c.id
  lane : c'.laneId = c.laneId
  createdAt : c'.createdAt = c.createdAt
  entries : c.entries <+: c'.entries
  addresses : ∀ p, (c.addresses p).isSome → (c'.addresses p).isSome
  details : ∀ p, (c.details p).isSome → (c'.details p).isSome
  fields : ∀ name, (c.fields.value? name).isSome → (c'.fields.value? name).isSome
  updatedAt : c.updatedAt.nanos ≤ c'.updatedAt.nanos

/-- The summary of a card agrees with its history: it shows the last line, and no line is younger
than the card. -/
structure Card.Truthful (c : Card) : Prop where
  lastMessage : c.entries.getLast?.map Entry.text = some c.lastMessage
  createdAt : c.createdAt.nanos ≤ c.updatedAt.nanos
  entries : ∀ e ∈ c.entries, e.sentAt.nanos ≤ c.updatedAt.nanos

namespace Card

variable {c c' c'' : Card} {now : Time.Instant}

theorem Grows.refl (c : Card) : c.Grows c :=
  ⟨rfl, rfl, rfl, List.prefix_refl _, fun _ h => h, fun _ h => h, fun _ h => h, Int.le_refl _⟩

theorem Grows.trans (h : c.Grows c') (h' : c'.Grows c'') : c.Grows c'' where
  id := h'.id.trans h.id
  lane := h'.lane.trans h.lane
  createdAt := h'.createdAt.trans h.createdAt
  entries := h.entries.trans h'.entries
  addresses p hp := h'.addresses p (h.addresses p hp)
  details p hp := h'.details p (h.details p hp)
  fields name hn := h'.fields name (h.fields name hn)
  updatedAt := Int.le_trans h.updatedAt h'.updatedAt

theorem Grows.touch (h : c.Grows c') (now : Time.Instant) : c.Grows (c'.touch now) :=
  { h with updatedAt := Int.le_trans h.updatedAt (Time.nanos_le_later_left _ _) }

theorem Truthful.touch (h : c.Truthful) (now : Time.Instant) : (c.touch now).Truthful where
  lastMessage := h.lastMessage
  createdAt := Int.le_trans h.createdAt (Time.nanos_le_later_left _ _)
  entries e he := Int.le_trans (h.entries e he) (Time.nanos_le_later_left _ _)

theorem grows_append (c : Card) (e : Entry) : c.Grows (c.append e) :=
  { Grows.refl c with
    entries := List.prefix_append _ _
    updatedAt := Time.nanos_le_later_right _ _ }

/-- A card that is given a line shows it, whatever it showed before. -/
theorem truthful_append (e : Entry) (hc : c.createdAt.nanos ≤ c.updatedAt.nanos)
    (he : ∀ x ∈ c.entries, x.sentAt.nanos ≤ c.updatedAt.nanos) : (c.append e).Truthful where
  lastMessage := by simp
  createdAt := Int.le_trans hc (Time.nanos_le_later_right _ _)
  entries x hx := by
    rw [append_entries, List.mem_append, List.mem_singleton] at hx
    rcases hx with hx | rfl
    · exact Int.le_trans (he x hx) (Time.nanos_le_later_right _ _)
    · exact Time.nanos_le_later_left _ _

theorem Truthful.append (h : c.Truthful) (e : Entry) : (c.append e).Truthful :=
  truthful_append e h.createdAt h.entries

theorem isSome_set {α : Type} {m : PerPlatform α} {p q : Platform} {x : α}
    (h : (m q).isSome) : (m.set p x q).isSome := by
  unfold PerPlatform.set
  split
  · rfl
  · exact h

theorem grows_addTo (m : Message) (now : Time.Instant) (c : Card) : c.Grows (m.addTo now c) :=
  { (c.grows_append m.entry).touch now with
    addresses := fun _ h => isSome_set h
    details := fun p h => by
      unfold Message.addTo
      cases m.details with
      | none => exact h
      | some v => exact isSome_set h }

/-- A message makes a card truthful as soon as no line is younger than the card. -/
theorem truthful_addTo (m : Message) (now : Time.Instant)
    (hc : c.createdAt.nanos ≤ c.updatedAt.nanos)
    (he : ∀ x ∈ c.entries, x.sentAt.nanos ≤ c.updatedAt.nanos) : (m.addTo now c).Truthful :=
  { (truthful_append m.entry hc he).touch now with }

theorem grows_learned (c : Card) (name value : String) :
    c.Grows { c with fields := c.fields.set name value } :=
  { Grows.refl c with
    fields := fun other h => by
      dsimp only
      rw [Dictionary.value?_set]
      split
      · rfl
      · exact h }

end Card

-- ---------------------------------------------------------------------------
-- The desk
-- ---------------------------------------------------------------------------

namespace Desk

/-- Every card is filed under its own id in a lane that is there, and tells the truth. -/
def Sound (d : Desk) : Prop :=
  ∀ id c, d.card? id = some c →
    c.id = id ∧ (∃ lane, d.lanes.get? c.laneId = some lane) ∧ c.Truthful

structure Evolves (d d' : Desk) : Prop where
  lanes : d'.lanes = d.lanes
  cards : ∀ id c, d.card? id = some c → ∃ c', d'.card? id = some c' ∧ c.Grows c'
  sound : d.Sound → d'.Sound

variable {d d' d'' : Desk} {c c' : Card} {id : String} {now : Time.Instant}

theorem Evolves.refl (d : Desk) : d.Evolves d :=
  ⟨rfl, fun _ c h => ⟨c, h, Card.Grows.refl c⟩, fun h => h⟩

theorem Evolves.trans (h : d.Evolves d') (h' : d'.Evolves d'') : d.Evolves d'' where
  lanes := h'.lanes.trans h.lanes
  cards id c hc := by
    obtain ⟨c', hc', hg⟩ := h.cards id c hc
    obtain ⟨c'', hc'', hg'⟩ := h'.cards id c' hc'
    exact ⟨c'', hc'', hg.trans hg'⟩
  sound hd := h'.sound (h.sound hd)

theorem evolves_withCard (h : d.card? id = some c) (hg : c.Grows c')
    (ht : c.Truthful → c'.Truthful) : d.Evolves (d.withCard c') where
  lanes := rfl
  cards other x hx := by
    rw [card?_withCard]
    split
    next hid =>
      -- the card that was replaced is the one that grew
      have hx : d.card? id = some x := by rw [← id_of_card? h, ← hg.id, hid]; exact hx
      cases h.symm.trans hx
      exact ⟨c', rfl, hg⟩
    next => exact ⟨x, hx, Card.Grows.refl x⟩
  sound hd other x hx := by
    rw [card?_withCard] at hx
    split at hx
    next hid =>
      cases hx
      obtain ⟨_, hl, htruth⟩ := hd id c h
      exact ⟨hid, by rw [hg.lane]; exact hl, ht htruth⟩
    next => exact hd other x hx

theorem evolves_withNew {lane : Lane} (h : d.card? c.id = none)
    (hl : d.lanes.get? c.laneId = some lane) (ht : c.Truthful) : d.Evolves (d.withCard c) where
  lanes := rfl
  cards other x hx := by
    rw [card?_withCard]
    split
    next hid =>
      subst hid
      cases h.symm.trans hx
    next => exact ⟨x, hx, Card.Grows.refl x⟩
  sound hd other x hx := by
    rw [card?_withCard] at hx
    split at hx
    next hid => cases hx; exact ⟨hid, ⟨lane, hl⟩, ht⟩
    next => exact hd other x hx

-- ---------------------------------------------------------------------------
-- The operations
-- ---------------------------------------------------------------------------

theorem change_evolves {f : Card → Card} (hg : ∀ c : Card, c.Grows (f c))
    (ht : ∀ c : Card, c.Truthful → (f c).Truthful)
    (h : (d.change id now f).map Prod.snd = .ok d') : d.Evolves d' := by
  obtain ⟨c, hc, rfl⟩ := eq_withCard_of_change (fun c => (hg c).id) h
  exact evolves_withCard hc ((hg c).touch now) fun hc => (ht c hc).touch now

theorem setPosition_evolves {p : Position} (h : d.setPosition id p now = .ok d') :
    d.Evolves d' := by
  unfold setPosition at h
  refine change_evolves (fun c => ?_) (fun c ht => ?_) h
  · exact { Card.Grows.refl c with }
  · exact { ht with }

theorem learn_evolves {name value : String} (h : d.learn id name value now = .ok d') :
    d.Evolves d' := by
  unfold learn at h
  refine change_evolves (fun c => ?_) (fun c ht => ?_) h
  · exact c.grows_learned name value
  · exact { ht with }

theorem rename_evolves {name : String} (h : d.rename id name now = .ok d') : d.Evolves d' := by
  unfold rename at h
  dsimp only at h
  split at h
  · cases h; exact .refl d
  · refine change_evolves (fun c => ?_) (fun c ht => ?_) h
    · exact { Card.Grows.refl c with }
    · exact { ht with }

theorem appendOutbound_evolves {author : Author} {text : String}
    (h : d.appendOutbound id author text now = .ok (c', d')) : d.Evolves d' := by
  unfold appendOutbound at h
  refine change_evolves (fun c => ?_) (fun c ht => ?_) (congrArg (Except.map Prod.snd) h)
  · exact c.grows_append _
  · exact ht.append _

theorem markRead_evolves {p : Platform} {sender : String} {found : Option String}
    (h : d.markRead p sender now = .ok (found, d')) : d.Evolves d' := by
  rcases markRead_cases d p sender now with he | ⟨c, hc, he⟩ <;> rw [he] at h <;> cases h
  · exact .refl d
  · have hg : c.Grows { c with lastReadAt := some now } := { Card.Grows.refl c with }
    have ht : c.Truthful → Card.Truthful { c with lastReadAt := some now } := fun h => { h with }
    exact evolves_withCard hc (hg.touch now) fun h => (ht h).touch now

variable {keyword : String} {m : Message}

theorem receive_evolves {a : Arrival} (h : d.receive keyword m now = .ok (a, d')) :
    d.Evolves d' := by
  rcases receive_cases d keyword m now with
    ⟨e, he⟩ | ⟨c, hc, _, he⟩ | ⟨lane, _, hvacant, hlane, he⟩ <;> rw [he] at h
  · cases h
  · obtain ⟨-, rfl⟩ := Prod.mk.inj (Except.ok.inj h)
    exact evolves_withCard hc (c.grows_addTo m now) fun ht =>
      Card.truthful_addTo m now ht.createdAt ht.entries
  · obtain ⟨-, rfl⟩ := Prod.mk.inj (Except.ok.inj h)
    refine evolves_withNew hvacant hlane ?_
    exact Card.truthful_addTo m now (Int.le_refl _) fun x hx => nomatch hx

end Desk

end Switchboard
