import Switchboard.Desk.Changes
import Switchboard.Proofs.Desk.Contacts

/-!
# Operations in a row

A desk is followed over any operations, with a record of the messages that were received at it and
of the keys that ids were made of. An operation other than a message only tends the cards that are
there (`step_cases`): it leaves what is known of their contacts, and what these wrote.
-/

namespace Switchboard

-- ---------------------------------------------------------------------------
-- Operations in a row
-- ---------------------------------------------------------------------------

inductive Operation where
  | putLane (l : Lane)
  | receive (m : Message)
  | markRead (p : Platform) (sender : String)
  | setPosition (id : String) (p : Position)
  | appendOutbound (id : String) (author : Author) (text : String)
  | learn (id name value : String)
  | rename (id name : String)

/-- Appending an outbound line with the contact for its author. -/
def Operation.forges : Operation → Bool
  | .appendOutbound _ author _ => author == .contact
  | _ => false

/-- A message that was received, and where it went. -/
structure Filed where
  message : Message
  arrival : Arrival

def Filed.contact (x : Filed) : Contact := x.message.contact

def Filed.cardId (x : Filed) : String := x.arrival.cardId

/-- A desk, the messages received at it, and the keys that ids were made of. -/
structure Register where
  desk : Desk
  filed : List Filed
  hashed : List String

/-- The key that an id is made of when a message comes: none is if its contact is found. -/
def Desk.hashedKey? (d : Desk) (m : Message) : Option String :=
  match d.find? m.platform m.sender with
  | some _ => none
  | none => some (contactKey m.platform m.sender)

namespace Register

def empty : Register := ⟨Desk.empty, [], []⟩

/-- The register after a change to the desk. A change that is refused leaves it as it was. -/
def keep (r : Register) : Except DeskError Desk → Register
  | .ok d => { r with desk := d }
  | .error _ => r

def file (keyword : String) (r : Register) (m : Message) (now : Time.Instant) : Register :=
  match r.desk.receive keyword m now with
  | .ok (a, d) => ⟨d, r.filed ++ [⟨m, a⟩], r.hashed ++ (r.desk.hashedKey? m).toList⟩
  | .error _ => r

def step (keyword : String) (r : Register) : Operation × Time.Instant → Register
  | (.putLane l, _) => r.keep (.ok (r.desk.putLane l))
  | (.receive m, now) => r.file keyword m now
  | (.markRead p sender, now) => r.keep ((r.desk.markRead p sender now).map Prod.snd)
  | (.setPosition id p, now) => r.keep (r.desk.setPosition id p now)
  | (.appendOutbound id author text, now) =>
    r.keep ((r.desk.appendOutbound id author text now).map Prod.snd)
  | (.learn id name value, now) => r.keep (r.desk.learn id name value now)
  | (.rename id name, now) => r.keep (r.desk.rename id name now)

def run (keyword : String) (ops : List (Operation × Time.Instant)) : Register :=
  ops.foldl (step keyword) empty

/-- No two keys that ids were made of have one id. -/
def NoCollision (r : Register) : Prop :=
  ∀ a ∈ r.hashed, ∀ b ∈ r.hashed, Digest.nameId a = Digest.nameId b → a = b

end Register

-- ---------------------------------------------------------------------------
-- Operations other than a message
-- ---------------------------------------------------------------------------

/-- The lines of a card that its contact wrote. -/
def Card.contactLines (c : Card) : List Entry := c.entries.filter fun e => e.author == .contact

/-- A change that leaves what is known of the contact, and their lines unless it forges one. -/
structure Card.Tended (forged : Bool) (c c' : Card) : Prop where
  addresses : c'.addresses = c.addresses
  number : c'.contactNumber = c.contactNumber
  phone : c'.phone = c.phone
  lines : forged = false → c'.contactLines = c.contactLines

/-- The same cards are on both desks, only tended. -/
def Desk.Tended (forged : Bool) (d d' : Desk) : Prop :=
  ∀ id, Option.Rel (Card.Tended forged) (d.card? id) (d'.card? id)

namespace Card

variable {c c' : Card} {forged : Bool} {k : Contact}

theorem Tended.refl (forged : Bool) (c : Card) : c.Tended forged c := ⟨rfl, rfl, rfl, fun _ => rfl⟩

theorem tended_append (c : Card) (author : Author) (text : String) (now : Time.Instant) :
    c.Tended (author == .contact) (c.append (Desk.outboundEntry c author text now)) where
  addresses := rfl
  number := rfl
  phone := rfl
  lines h := by
    rw [contactLines, append_entries, List.filter_append, List.filter_cons_of_neg]
    · exact List.append_nil _
    · simpa [Desk.outboundEntry] using h

theorem BelongsTo.tended (h : c.BelongsTo k) (ht : c.Tended forged c') : c'.BelongsTo k where
  addresses := by rw [ht.addresses]; exact h.addresses
  number := by rw [ht.number]; exact h.number
  phone := by rw [ht.phone]; exact h.phone
  reaches := by
    have hreach := h.reaches
    cases k with
    | phone d => exact ht.phone.trans hreach
    | raw e => exact ht.number.trans hreach
    | account p e => exact (congrFun ht.addresses p).trans hreach
    | nobody p => trivial

end Card

namespace Desk

variable {d d' : Desk} {c : Card} {forged : Bool} {id : String} {now : Time.Instant}
  {f : Card → Card}

theorem Tended.refl (forged : Bool) (d : Desk) : d.Tended forged d := by
  intro id
  cases d.card? id with
  | none => exact .none
  | some c => exact .some (.refl forged c)

theorem Tended.after (h : d.Tended forged d') (hc : d.card? id = some c) :
    ∃ c', d'.card? id = some c' ∧ c.Tended forged c' := by
  have hrel := h id
  rw [hc] at hrel
  generalize d'.card? id = x at hrel ⊢
  cases hrel with
  | some ht => exact ⟨_, rfl, ht⟩

theorem Tended.before (h : d.Tended forged d') (hc : d'.card? id = some c) :
    ∃ c', d.card? id = some c' ∧ c'.Tended forged c := by
  have hrel := h id
  rw [hc] at hrel
  generalize d.card? id = x at hrel ⊢
  cases hrel with
  | some ht => exact ⟨_, rfl, ht⟩

theorem tended_withCard {c' : Card} (h : d.card? c.id = some c) (hid : c'.id = c.id)
    (ht : c.Tended forged c') : d.Tended forged (d.withCard c') := by
  intro id
  rw [card?_withCard]
  split
  next hid' =>
    obtain rfl : c.id = id := hid.symm.trans hid'
    rw [h]
    exact .some ht
  next => exact Tended.refl forged d id

theorem tended_change (hid : ∀ c, (f c).id = c.id)
    (ht : ∀ c : Card, c.Tended forged ((f c).touch now))
    (h : (d.change id now f).map Prod.snd = .ok d') : d.Tended forged d' := by
  obtain ⟨c, hc, rfl⟩ := eq_withCard_of_change hid h
  exact tended_withCard hc (hid c) (ht c)

end Desk

namespace Register

variable {r : Register} {forged : Bool} {keyword : String}

theorem keep_cases (result : Except DeskError Desk)
    (h : ∀ d, result = .ok d → r.desk.Tended forged d) :
    ∃ d, r.keep result = { r with desk := d } ∧ r.desk.Tended forged d := by
  cases result with
  | ok d => exact ⟨d, rfl, h d rfl⟩
  | error e => exact ⟨r.desk, rfl, Desk.Tended.refl forged r.desk⟩

/-- An operation is a message, or it tends the cards on the desk. -/
theorem step_cases (keyword : String) (r : Register) (op : Operation) (now : Time.Instant) :
    (∃ m, op = .receive m) ∨
      ∃ d, r.step keyword (op, now) = { r with desk := d } ∧ r.desk.Tended op.forges d := by
  cases op with
  | receive m => exact .inl ⟨m, rfl⟩
  | putLane l => exact .inr ⟨r.desk.putLane l, rfl, Desk.Tended.refl _ r.desk⟩
  | markRead p sender =>
    refine .inr (keep_cases _ fun d hd => ?_)
    rcases Desk.markRead_cases r.desk p sender now with he | ⟨c, hc, he⟩ <;> rw [he] at hd <;>
      cases hd
    · exact .refl _ r.desk
    · exact Desk.tended_withCard hc rfl ⟨rfl, rfl, rfl, fun _ => rfl⟩
  | setPosition id p =>
    refine .inr (keep_cases _ fun d hd => ?_)
    unfold Desk.setPosition at hd
    refine Desk.tended_change (fun c => ?_) (fun c => ?_) hd
    · rfl
    · exact ⟨rfl, rfl, rfl, fun _ => rfl⟩
  | appendOutbound id author text =>
    refine .inr (keep_cases _ fun d hd => ?_)
    unfold Desk.appendOutbound at hd
    refine Desk.tended_change (fun c => ?_) (fun c => ?_) hd
    · rfl
    · exact { c.tended_append author text now with }
  | learn id name value =>
    refine .inr (keep_cases _ fun d hd => ?_)
    unfold Desk.learn at hd
    refine Desk.tended_change (fun c => ?_) (fun c => ?_) hd
    · rfl
    · exact ⟨rfl, rfl, rfl, fun _ => rfl⟩
  | rename id name =>
    right
    rw [step]
    refine keep_cases _ fun d hd => ?_
    unfold Desk.rename at hd
    dsimp only at hd
    generalize Text.trim name = trimmed at hd
    split at hd
    · cases hd
      exact .refl _ r.desk
    · refine Desk.tended_change (fun c => ?_) (fun c => ?_) hd
      · rfl
      · exact ⟨rfl, rfl, rfl, fun _ => rfl⟩

end Register

end Switchboard
