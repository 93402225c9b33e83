import Switchboard.Proofs.Desk.Cards
import Switchboard.Proofs.Desk.Keys

/-!
# Contacts

Who a sender is, told apart from how the desk finds their card: a telephone number by its digits or
as it is written, or an address on a platform. A card belongs to a contact if all it holds of
numbers and addresses was written by messages of that contact, and if a later message of theirs can
find it by these (`contact_of_find?`, `contact_ne_of_find?`).
-/

namespace Switchboard

-- ---------------------------------------------------------------------------
-- Senders
-- ---------------------------------------------------------------------------

inductive Contact where
  /-- A telephone number, by its digits. -/
  | phone (digits : String)
  /-- What was given for a telephone number and has no digits. -/
  | raw (number : String)
  /-- Nothing was given for a telephone number. -/
  | nobody (p : Platform)
  | account (p : Platform) (address : String)
  deriving DecidableEq, Repr

/-- The contact who writes from an address on a platform. -/
def Contact.of (p : Platform) (sender : String) : Contact :=
  if p.usesPhone then
    if phoneDigits sender ≠ "" then .phone (phoneDigits sender)
    else if sender ≠ "" then .raw sender
    else .nobody p
  else .account p sender

def Message.contact (m : Message) : Contact := .of m.platform m.sender

namespace Contact

variable {p q : Platform} {e e' d : String}

theorem of_digits (hp : p.usesPhone = true) (hd : phoneDigits e ≠ "") :
    of p e = .phone (phoneDigits e) := by
  simp [of, hp, hd]

/-- All platforms that use telephone numbers know one contact by one number. -/
theorem of_eq_of (hp : p.usesPhone = true) (hq : q.usesPhone = true) (he : e ≠ "") :
    of p e = of q e := by
  simp [of, hp, hq, he]

theorem of_cases (p : Platform) (e : String) :
    (p.usesPhone = true ∧ phoneDigits e ≠ "" ∧ of p e = .phone (phoneDigits e)) ∨
      (p.usesPhone = true ∧ e ≠ "" ∧ of p e = .raw e) ∨
      (p.usesPhone = true ∧ e = "" ∧ of p e = .nobody p) ∨
      (p.usesPhone = false ∧ of p e = .account p e) := by
  unfold of
  cases hp : p.usesPhone with
  | false => simp
  | true =>
    by_cases hd : phoneDigits e = ""
    · by_cases he : e = ""
      · subst he
        exact .inr (.inr (.inl ⟨rfl, rfl, by simp [hd]⟩))
      · exact .inr (.inl ⟨rfl, he, by simp [hd, he]⟩)
    · exact .inl ⟨rfl, hd, by simp [hd]⟩

theorem eq_of_phone (h : of p e = .phone d) : p.usesPhone = true ∧ phoneDigits e = d := by
  rcases of_cases p e with ⟨hp, _, ho⟩ | ⟨_, _, ho⟩ | ⟨_, _, ho⟩ | ⟨_, ho⟩ <;> rw [ho] at h <;> cases h
  exact ⟨hp, rfl⟩

theorem eq_of_raw (h : of p e = .raw e') : p.usesPhone = true ∧ e = e' := by
  rcases of_cases p e with ⟨_, _, ho⟩ | ⟨hp, _, ho⟩ | ⟨_, _, ho⟩ | ⟨_, ho⟩ <;> rw [ho] at h <;> cases h
  exact ⟨hp, rfl⟩

theorem eq_of_nobody (h : of p e = .nobody q) : p = q ∧ e = "" := by
  rcases of_cases p e with ⟨_, _, ho⟩ | ⟨_, _, ho⟩ | ⟨_, he, ho⟩ | ⟨_, ho⟩ <;> rw [ho] at h <;> cases h
  exact ⟨rfl, he⟩

theorem eq_of_account (h : of p e = .account q e') : p = q ∧ e = e' := by
  rcases of_cases p e with ⟨_, _, ho⟩ | ⟨_, _, ho⟩ | ⟨_, _, ho⟩ | ⟨_, ho⟩ <;> rw [ho] at h <;> cases h
  exact ⟨rfl, rfl⟩

/-- A sender who gives nothing is known by the platform alone. -/
theorem eq_of_blank (h : of p "" = of q e) : p = q ∧ e = "" := by
  have hdigits : phoneDigits "" = "" := by decide
  rcases of_cases p "" with ⟨_, hd, _⟩ | ⟨_, he, _⟩ | ⟨_, _, ho⟩ | ⟨_, ho⟩
  · exact absurd hdigits hd
  · exact absurd rfl he
  · obtain ⟨rfl, he⟩ := eq_of_nobody (h.symm.trans ho)
    exact ⟨rfl, he⟩
  · exact (eq_of_account (h.symm.trans ho)).imp_left Eq.symm

/-- Senders of one key are one contact. -/
theorem of_eq_of_contactKey (h : contactKey p e = contactKey q e') : of p e = of q e' := by
  rcases contactKey_eq_iff.1 h with ⟨rfl, rfl⟩ | ⟨hp, hq, hd, hdigits⟩
  · rfl
  · rw [of_digits hp hd, of_digits hq (hdigits ▸ hd), hdigits]

end Contact

-- ---------------------------------------------------------------------------
-- Cards of a contact
-- ---------------------------------------------------------------------------

/-- Numbers and addresses on a card were written by messages of one contact. -/
structure Card.Suits (c : Card) (k : Contact) : Prop where
  addresses : ∀ p e, c.addresses p = some e → Contact.of p e = k
  number : ∀ e, c.contactNumber = some e → ∃ p, p.usesPhone = true ∧ Contact.of p e = k
  phone : ∀ d, c.phone = some d →
    ∃ p e, p.usesPhone = true ∧ Contact.of p e = k ∧ phoneDigits e = d

/-- A card holds what its contact is found by. -/
def Card.Reaches (c : Card) : Contact → Prop
  | .phone digits => c.phone = some digits
  | .raw number => c.contactNumber = some number
  | .account p address => c.addresses p = some address
  | .nobody _ => True

/-- A card is that of a contact. -/
structure Card.BelongsTo (c : Card) (k : Contact) : Prop extends c.Suits k where
  reaches : c.Reaches k

namespace Card

variable {c c' : Card} {k : Contact} {m : Message} {now : Time.Instant}

theorem suits_blankCard (m : Message) (id : String) (lane : Lane) (now : Time.Instant)
    (k : Contact) : (m.blankCard id lane now).Suits k where
  addresses _ _ h := nomatch h
  number _ h := nomatch h
  phone _ h := nomatch h

theorem addresses_addTo (m : Message) (now : Time.Instant) (c : Card) :
    (m.addTo now c).addresses = c.addresses.set m.platform m.sender := rfl

theorem contactNumber_addTo (m : Message) (now : Time.Instant) (c : Card) :
    (m.addTo now c).contactNumber =
      if m.platform.usesPhone then c.contactNumber.or (some m.sender) else c.contactNumber := rfl

theorem phone_addTo (m : Message) (now : Time.Instant) (c : Card) :
    (m.addTo now c).phone =
      if m.platform.usesPhone then c.phone.or (some (phoneDigits m.sender)) else c.phone := rfl

/-- A message leaves the card of its contact to them. -/
theorem Suits.addTo (h : c.Suits m.contact) (now : Time.Instant) :
    (m.addTo now c).Suits m.contact where
  addresses p e he := by
    rw [addresses_addTo] at he
    by_cases hp : p = m.platform
    · subst hp
      rw [PerPlatform.set_self] at he
      cases he
      rfl
    · rw [PerPlatform.set_of_ne _ _ hp] at he
      exact h.addresses p e he
  number e he := by
    rw [contactNumber_addTo] at he
    split at he
    next hp =>
      rcases Option.or_eq_some_iff.1 he with he | ⟨_, he⟩
      · exact h.number e he
      · cases he
        exact ⟨m.platform, hp, rfl⟩
    next => exact h.number e he
  phone d hd := by
    rw [phone_addTo] at hd
    split at hd
    next hp =>
      rcases Option.or_eq_some_iff.1 hd with hd | ⟨_, hd⟩
      · exact h.phone d hd
      · cases hd
        exact ⟨m.platform, m.sender, hp, rfl, rfl⟩
    next => exact h.phone d hd

/-- By a message that is on the card a later one can find it. -/
theorem Suits.reaches_addTo (h : c.Suits m.contact) (now : Time.Instant) :
    (m.addTo now c).Reaches m.contact := by
  cases hk : m.contact with
  | phone d =>
    obtain ⟨hp, hd⟩ := Contact.eq_of_phone hk
    show (m.addTo now c).phone = some d
    rw [phone_addTo, if_pos hp, hd]
    cases hc : c.phone with
    | none => rfl
    | some d' =>
      obtain ⟨p, e, _, he, rfl⟩ := h.phone d' hc
      rw [Option.some_or, (Contact.eq_of_phone (he.trans hk)).2]
  | raw e =>
    obtain ⟨hp, he⟩ := Contact.eq_of_raw hk
    show (m.addTo now c).contactNumber = some e
    rw [contactNumber_addTo, if_pos hp, he]
    cases hc : c.contactNumber with
    | none => rfl
    | some e' =>
      obtain ⟨p, _, he'⟩ := h.number e' hc
      rw [Option.some_or, (Contact.eq_of_raw (he'.trans hk)).2]
  | account p e =>
    obtain ⟨hp, he⟩ := Contact.eq_of_account hk
    show (m.addTo now c).addresses p = some e
    rw [addresses_addTo, ← hp, ← he, PerPlatform.set_self]
  | nobody p => trivial

theorem Suits.belongsTo_addTo (h : c.Suits m.contact) (now : Time.Instant) :
    (m.addTo now c).BelongsTo m.contact := ⟨h.addTo now, h.reaches_addTo now⟩

end Card

-- ---------------------------------------------------------------------------
-- Finding the card of a contact
-- ---------------------------------------------------------------------------

namespace Desk

variable {d : Desk} {c : Card} {k : Contact} {p : Platform} {sender id : String}

/-- A card that is found is that of the sender. -/
theorem contact_of_find? (h : d.find? p sender = some c) (hc : c.Suits k) :
    Contact.of p sender = k := by
  obtain ⟨_, hs, haddress | ⟨hp, ⟨hd, hphone⟩ | hnumber⟩⟩ := find?_some h
  · exact hc.addresses p sender haddress
  · obtain ⟨q, e, hq, rfl, he⟩ := hc.phone _ hphone
    rw [Contact.of_digits hp hd, Contact.of_digits hq (he ▸ hd), he]
  · obtain ⟨q, hq, rfl⟩ := hc.number _ hnumber
    exact Contact.of_eq_of hp hq hs

/-- If none is found, no card is that of the sender, unless nothing is known of them. -/
theorem contact_ne_of_find? (h : d.find? p sender = none) (hs : sender ≠ "")
    (hcard : d.card? id = some c) (hc : c.BelongsTo k) : Contact.of p sender ≠ k := by
  rintro rfl
  obtain ⟨haddress, hnumbers⟩ := find?_none h hs hcard
  have hreach := hc.reaches
  rcases Contact.of_cases p sender with ⟨hp, hd, ho⟩ | ⟨hp, _, ho⟩ | ⟨_, he, _⟩ | ⟨_, ho⟩
  · rw [ho] at hreach
    exact (hnumbers hp).1 hd hreach
  · rw [ho] at hreach
    exact (hnumbers hp).2 hreach
  · exact hs he
  · rw [ho] at hreach
    exact haddress hreach

end Desk

end Switchboard
