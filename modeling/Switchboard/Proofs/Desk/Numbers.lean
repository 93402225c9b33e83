import Switchboard.Proofs.Desk.Register

/-!
# Cards known by a number

The number of a contact stands on their card twice, as it was given and by its digits. A message
from a telephone number finds a card by the digits, or by the number exactly as it is written. Both
are written together, so on a desk that only its own operations have changed any spelling of a known
number finds a card (`known_number_attaches`). A card that was brought from elsewhere with no digits
beside its number is found by that spelling only (`legacy_number_missed`).
-/

namespace Switchboard

-- ---------------------------------------------------------------------------
-- Numbers on a card
-- ---------------------------------------------------------------------------

/-- The number on a card has these digits, however it is written. -/
def Card.HasDigits (c : Card) (digits : String) : Prop :=
  ∃ number, c.contactNumber = some number ∧ phoneDigits number = digits

/-- The digits on a card are those of its number. -/
def Card.Normalized (c : Card) : Prop := c.phone = c.contactNumber.map phoneDigits

/-- A card holds what the sender of a message is looked up by. -/
def Card.KnownBy (c : Card) (m : Message) : Prop :=
  c.addresses m.platform = some m.sender ∨ c.phone = some (phoneDigits m.sender) ∨
    c.contactNumber = some m.sender

/-- A message is added to a card that is on the desk. -/
def Desk.Attaches (d : Desk) (keyword : String) (m : Message) (now : Time.Instant) : Prop :=
  ∃ c, d.card? c.id = some c ∧
    d.receive keyword m now = .ok (⟨c.id, false⟩, d.withCard (m.addTo now c))

namespace Card

variable {c c' : Card}

theorem normalized_blankCard (m : Message) (id : String) (lane : Lane) (now : Time.Instant) :
    (m.blankCard id lane now).Normalized := rfl

theorem Normalized.addTo (h : c.Normalized) (m : Message) (now : Time.Instant) :
    (m.addTo now c).Normalized := by
  unfold Normalized at h ⊢
  rw [phone_addTo, contactNumber_addTo, h]
  cases hp : m.platform.usesPhone with
  | false => rfl
  | true => cases c.contactNumber <;> rfl

theorem Normalized.tended (h : c.Normalized) {forged : Bool} (ht : c.Tended forged c') :
    c'.Normalized := by
  unfold Normalized at h ⊢
  rw [ht.phone, ht.number, h]

theorem Normalized.phone_of_hasDigits (h : c.Normalized) {digits : String}
    (hd : c.HasDigits digits) : c.phone = some digits := by
  obtain ⟨number, hnumber, rfl⟩ := hd
  rw [h, hnumber, Option.map_some]

end Card

-- ---------------------------------------------------------------------------
-- Messages that find a card
-- ---------------------------------------------------------------------------

namespace Desk

variable {d : Desk} {c : Card} {keyword id : String} {m : Message} {now : Time.Instant}

theorem sender_ne_of_digits (hdigits : phoneDigits m.sender ≠ "") : m.sender ≠ "" := by
  intro hs
  rw [hs] at hdigits
  exact hdigits (by decide)

theorem find?_of_knownBy (hp : m.platform.usesPhone = true) (hdigits : phoneDigits m.sender ≠ "")
    (hc : d.card? id = some c) (hknown : c.KnownBy m) :
    ∃ found, d.find? m.platform m.sender = some found := by
  cases hf : d.find? m.platform m.sender with
  | some found => exact ⟨found, rfl⟩
  | none =>
    obtain ⟨haddress, hnumbers⟩ := find?_none hf (sender_ne_of_digits hdigits) hc
    obtain ⟨hphone, hnumber⟩ := hnumbers hp
    rcases hknown with h | h | h
    · exact absurd h haddress
    · exact absurd h (hphone hdigits)
    · exact absurd h hnumber

theorem attaches_of_knownBy (hp : m.platform.usesPhone = true)
    (hdigits : phoneDigits m.sender ≠ "") (hc : d.card? id = some c) (hknown : c.KnownBy m) :
    d.Attaches keyword m now := by
  obtain ⟨found, hf⟩ := find?_of_knownBy hp hdigits hc hknown
  exact ⟨found, (find?_some hf).1, receive_of_found hf⟩

/-- A message is added to a card that is there if one holds what it is looked up by, or if there
happens to be one under the id that a new card would get. -/
theorem attaches_iff (hp : m.platform.usesPhone = true) (hdigits : phoneDigits m.sender ≠ "") :
    d.Attaches keyword m now ↔
      (∃ id c, d.card? id = some c ∧ c.KnownBy m) ∨
        (∃ c, d.card? (contactCardId m.platform m.sender) = some c) ∧
          ∃ lane, d.defaultLane keyword = .ok lane := by
  constructor
  · rintro ⟨c, -, hreceive⟩
    rcases receive_cases d keyword m now with
      ⟨e, he⟩ | ⟨found, hstored, hf | ⟨hf, hid⟩, he⟩ | ⟨lane, -, -, -, he⟩
    · cases he.symm.trans hreceive
    · obtain ⟨-, -, haddress | ⟨-, ⟨-, hphone⟩ | hnumber⟩⟩ := find?_some hf
      · exact .inl ⟨_, found, hstored, .inl haddress⟩
      · exact .inl ⟨_, found, hstored, .inr (.inl hphone)⟩
      · exact .inl ⟨_, found, hstored, .inr (.inr hnumber)⟩
    · refine .inr ⟨⟨found, hid ▸ hstored⟩, ?_⟩
      cases hlane : d.defaultLane keyword with
      | ok lane => exact ⟨lane, rfl⟩
      | error e => cases he.symm.trans (receive_of_no_lane hf hlane)
    · have hnew : true = false :=
        congrArg Arrival.isNew (Prod.mk.inj (Except.ok.inj (he.symm.trans hreceive))).1
      cases hnew
  · rintro (⟨id, c, hc, hknown⟩ | ⟨⟨c, hc⟩, lane, hlane⟩)
    · exact attaches_of_knownBy hp hdigits hc hknown
    · cases hf : d.find? m.platform m.sender with
      | some found => exact ⟨found, (find?_some hf).1, receive_of_found hf⟩
      | none =>
        have hid := id_of_card? hc
        refine ⟨c, by rw [hid, hc], ?_⟩
        rw [receive_of_unknown hf hlane, hid]
        exact deposit_of_card? hc

-- ---------------------------------------------------------------------------
-- Desks on which digits and numbers agree
-- ---------------------------------------------------------------------------

def Normalized (d : Desk) : Prop := ∀ id c, d.card? id = some c → c.Normalized

theorem normalized_empty : empty.Normalized := by
  intro id c hc
  cases hc

theorem Normalized.withCard (h : d.Normalized) (hc : c.Normalized) : (d.withCard c).Normalized := by
  intro id c' hc'
  rw [card?_withCard] at hc'
  split at hc'
  · cases hc'
    exact hc
  · exact h id c' hc'

theorem Normalized.tended (h : d.Normalized) {d' : Desk} {forged : Bool}
    (ht : d.Tended forged d') : d'.Normalized := by
  intro id c hc
  obtain ⟨c', hc', htended⟩ := ht.before hc
  exact (h id c' hc').tended htended

end Desk

namespace Register

variable {r : Register} {keyword : String}

theorem normalized_file (h : r.desk.Normalized) (m : Message) (now : Time.Instant) :
    (r.file keyword m now).desk.Normalized := by
  unfold file
  rcases Desk.receive_cases r.desk keyword m now with
    ⟨e, he⟩ | ⟨c, hc, -, he⟩ | ⟨lane, -, -, -, he⟩ <;> rw [he]
  · exact h
  · exact h.withCard ((h c.id c hc).addTo m now)
  · exact h.withCard ((Card.normalized_blankCard ..).addTo m now)

theorem normalized_step (h : r.desk.Normalized) (x : Operation × Time.Instant) :
    (r.step keyword x).desk.Normalized := by
  obtain ⟨op, now⟩ := x
  rcases step_cases keyword r op now with ⟨m, rfl⟩ | ⟨d, hd, ht⟩
  · exact normalized_file h m now
  · rw [hd]
    exact h.tended ht

theorem normalized_foldl (h : r.desk.Normalized) (ops : List (Operation × Time.Instant)) :
    (ops.foldl (step keyword) r).desk.Normalized := by
  induction ops generalizing r with
  | nil => exact h
  | cons x ops ih => exact ih (normalized_step h x)

end Register

-- ---------------------------------------------------------------------------
-- A known number
-- ---------------------------------------------------------------------------

/-- A message from a telephone number is added to a card that is there if one has this number, with
its digits or written exactly so. However it is written will do after any operations on an empty
desk, or on one whose cards all had their digits. -/
theorem known_number_attaches (keyword : String) (m : Message) (now : Time.Instant)
    (hp : m.platform.usesPhone = true) (hdigits : phoneDigits m.sender ≠ "") :
    (∀ (d : Desk) (c : Card), d.card? c.id = some c →
      c.contactNumber = some m.sender ∨ c.phone = some (phoneDigits m.sender) →
      d.Attaches keyword m now) ∧
    (∀ (r : Register) (made : String) (ops : List (Operation × Time.Instant)) (c : Card),
      r.desk.Normalized → (ops.foldl (Register.step made) r).desk.card? c.id = some c →
      c.HasDigits (phoneDigits m.sender) →
      (ops.foldl (Register.step made) r).desk.Attaches keyword m now) ∧
    ∀ d : Desk, d.Attaches keyword m now ↔
      (∃ id c, d.card? id = some c ∧ c.KnownBy m) ∨
        (∃ c, d.card? (contactCardId m.platform m.sender) = some c) ∧
          ∃ lane, d.defaultLane keyword = .ok lane := by
  refine ⟨?_, ?_, fun d => Desk.attaches_iff hp hdigits⟩
  · intro d c hc hknown
    exact Desk.attaches_of_knownBy hp hdigits hc (.inr hknown.symm)
  · intro r made ops c hr hc hnumber
    have hphone := (Register.normalized_foldl hr ops c.id c hc).phone_of_hasDigits hnumber
    exact Desk.attaches_of_knownBy hp hdigits hc (.inr (.inl hphone))

/-- A card that was brought from elsewhere, with a number and without its digits. -/
def legacyCard : Card where
  id := "legacy-1"
  laneId := "inbox"
  contactName := "Rosa"
  contactNumber := some "+52 55 0000 0003"
  phone := none
  addresses := .none
  details := .none
  lastMessage := ""
  entries := []
  position := none
  fields := .empty
  createdAt := ⟨1672531200000000000, 0⟩
  updatedAt := ⟨1672531200000000000, 0⟩
  lastReadAt := none
  lastPlatform := none
  lastKind := none

def bandeja : Lane := ⟨"inbox", "Bandeja", some 0⟩

def legacyDesk : Desk := (Desk.empty.putLane bandeja).withCard legacyCard

def spelled : Message := .ofText .whatsApp "+52 55 0000 0003" "hola"

def bare : Message := .ofText .whatsApp "525500000003" "hola"

/-- A desk at which the number was received. -/
def greetedDesk : Desk :=
  (Register.run "bandeja" [(.putLane bandeja, ⟨0, 0⟩), (.receive spelled, ⟨0, 0⟩)]).desk

/-- The number as it is written finds the card that was brought. Where it was received, another
spelling finds its card too. -/
theorem known_number_attaches_rosa :
    phoneDigits spelled.sender ≠ "" ∧ legacyDesk.Attaches "bandeja" spelled ⟨0, 0⟩ ∧
      phoneDigits bare.sender ≠ "" ∧ greetedDesk.Attaches "bandeja" bare ⟨1, 0⟩ := by
  have hspelled : phoneDigits spelled.sender ≠ "" := by decide +kernel
  have hbare : phoneDigits bare.sender ≠ "" := by decide +kernel
  refine ⟨hspelled, ?_, hbare, ?_⟩
  · exact (known_number_attaches "bandeja" spelled ⟨0, 0⟩ rfl hspelled).1 legacyDesk legacyCard rfl
      (.inl rfl)
  · have hnumber : (greetedDesk.card? (contactCardId .sms "525500000003")).bind
        Card.contactNumber = some "+52 55 0000 0003" := by decide +kernel
    obtain ⟨c, hc, hnumber⟩ := Option.bind_eq_some_iff.1 hnumber
    have hstored : greetedDesk.card? c.id = some c := by rw [Desk.id_of_card? hc, hc]
    exact (known_number_attaches "bandeja" bare ⟨1, 0⟩ rfl hbare).2.1 .empty "bandeja" _ c
      Desk.normalized_empty hstored ⟨_, hnumber, by decide +kernel⟩

/-- The digits of a number that is on a card alone do not find it: a second card is made. -/
theorem legacy_number_missed :
    bare.platform.usesPhone = true ∧ phoneDigits bare.sender ≠ "" ∧
      legacyDesk.card? legacyCard.id = some legacyCard ∧
      legacyCard.HasDigits (phoneDigits bare.sender) ∧
      ¬ legacyDesk.Attaches "bandeja" bare ⟨0, 0⟩ := by
  refine ⟨rfl, by decide +kernel, rfl, ⟨_, rfl, by decide +kernel⟩, ?_⟩
  rintro ⟨c, -, hreceive⟩
  have hnew : (legacyDesk.receive "bandeja" bare ⟨0, 0⟩).toOption.map (fun x => x.1.isNew) =
      some true := by decide +kernel
  rw [hreceive] at hnew
  cases hnew

end Switchboard
