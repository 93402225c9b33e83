import Switchboard.Proofs.Desk.Register

/-!
# One card for each contact

As long as no two keys have one id, the cards on a desk and the contacts who wrote are in
correspondence (`one_card_each`): a message goes to the card of its contact, it is their first
exactly if the card is new, and what the card holds of the contact's lines is what they sent. The
invariant that carries this (`Kept`) links the ids of cards, what the cards hold of numbers and
addresses, and the messages that went to them.
-/

namespace Switchboard

-- ---------------------------------------------------------------------------
-- What is kept
-- ---------------------------------------------------------------------------

namespace Register

/-- What every operation keeps of the cards and the messages on them. -/
structure Kept (r : Register) : Prop where
  /-- The id of a card is made of a key of its contact. -/
  named : ∀ x ∈ r.filed, ∃ p e, Contact.of p e = x.contact ∧ contactKey p e ∈ r.hashed ∧
    x.cardId = contactCardId p e
  belongs : ∀ x ∈ r.filed, ∃ c, r.desk.card? x.cardId = some c ∧ c.BelongsTo x.contact
  owned : ∀ id c, r.desk.card? id = some c → ∃ x ∈ r.filed, x.cardId = id
  together : ∀ x ∈ r.filed, ∀ y ∈ r.filed, x.contact = y.contact → x.cardId = y.cardId
  /-- A message is the first on its card if nothing came of its contact before. -/
  firsts : ∀ before x after, r.filed = before ++ x :: after →
    (x.arrival.isNew = true ↔ ∀ y ∈ before, y.contact ≠ x.contact)

/-- The lines of contacts are the messages that were filed on their cards. -/
def Recorded (r : Register) : Prop :=
  ∀ id c, r.desk.card? id = some c →
    c.contactLines = (r.filed.filter fun x => x.cardId == id).map fun x => x.message.entry

theorem kept_empty : empty.Kept where
  named _ hx := nomatch hx
  belongs _ hx := nomatch hx
  owned _ _ hc := nomatch hc
  together _ hx := nomatch hx
  firsts before x after h := by
    have hmem : x ∈ empty.filed := h ▸ List.mem_append_right _ List.mem_cons_self
    cases hmem

theorem recorded_empty : empty.Recorded := fun _ _ hc => nomatch hc

variable {r : Register} {d : Desk} {forged : Bool} {keyword : String} {m : Message}
  {now : Time.Instant}

-- ---------------------------------------------------------------------------
-- Tending keeps
-- ---------------------------------------------------------------------------

theorem Kept.tended (h : r.Kept) (ht : r.desk.Tended forged d) : Kept { r with desk := d } where
  named := h.named
  belongs x hx := by
    obtain ⟨c, hc, hbelongs⟩ := h.belongs x hx
    obtain ⟨c', hc', htended⟩ := ht.after hc
    exact ⟨c', hc', hbelongs.tended htended⟩
  owned id c hc := by
    obtain ⟨c', hc', _⟩ := ht.before hc
    exact h.owned id c' hc'
  together := h.together
  firsts := h.firsts

theorem Recorded.tended (h : r.Recorded) (ht : r.desk.Tended false d) :
    Recorded { r with desk := d } := by
  intro id c hc
  obtain ⟨c', hc', htended⟩ := ht.before hc
  rw [htended.lines rfl]
  exact h id c' hc'

-- ---------------------------------------------------------------------------
-- Messages keep
-- ---------------------------------------------------------------------------

/-- Messages on one card are of one contact, as their keys have one id. -/
theorem Kept.contact_eq (h : r.Kept) (hkeys : r.NoCollision) {x y : Filed} (hx : x ∈ r.filed)
    (hy : y ∈ r.filed) (hid : x.cardId = y.cardId) : x.contact = y.contact := by
  obtain ⟨p, e, hpe, hkey, hxid⟩ := h.named x hx
  obtain ⟨q, e', hqe, hkey', hyid⟩ := h.named y hy
  rw [hxid, hyid] at hid
  rw [← hpe, ← hqe]
  exact Contact.of_eq_of_contactKey (hkeys _ hkey _ hkey' hid)

def add (r : Register) (c : Card) (m : Message) (isNew : Bool) (keys : List String) : Register :=
  ⟨r.desk.withCard c, r.filed ++ [⟨m, ⟨c.id, isNew⟩⟩], r.hashed ++ keys⟩

/-- A message keeps what is kept if it goes to the card of its contact, and is told from a first
message rightly. -/
theorem Kept.add (h : r.Kept) {c : Card} {isNew : Bool} {keys : List String}
    (hbelongs : c.BelongsTo m.contact)
    (hname : ∃ p e, Contact.of p e = m.contact ∧ contactKey p e ∈ r.hashed ++ keys ∧
      c.id = contactCardId p e)
    (hcard : ∀ x ∈ r.filed, x.cardId = c.id ↔ x.contact = m.contact)
    (hnew : isNew = true ↔ ∀ x ∈ r.filed, x.contact ≠ m.contact) :
    (r.add c m isNew keys).Kept where
  named x hx := by
    rcases List.mem_append.1 hx with hx | hx
    · obtain ⟨p, e, hpe, hkey, hid⟩ := h.named x hx
      exact ⟨p, e, hpe, List.mem_append_left _ hkey, hid⟩
    · obtain rfl := List.mem_singleton.1 hx
      exact hname
  belongs x hx := by
    rcases List.mem_append.1 hx with hx | hx
    · obtain ⟨c', hc', hbelongs'⟩ := h.belongs x hx
      by_cases hid : x.cardId = c.id
      · refine ⟨c, ?_, (hcard x hx).1 hid ▸ hbelongs⟩
        rw [hid]
        exact r.desk.card?_withCard_self c
      · refine ⟨c', ?_, hbelongs'⟩
        rw [← hc']
        exact (r.desk.card?_withCard c _).trans (if_neg fun hid' => hid hid'.symm)
    · obtain rfl := List.mem_singleton.1 hx
      exact ⟨c, r.desk.card?_withCard_self c, hbelongs⟩
  owned id c' hc' := by
    replace hc' := (r.desk.card?_withCard c id).symm.trans hc'
    split at hc'
    next hid => exact ⟨_, List.mem_append_right _ List.mem_cons_self, hid⟩
    next =>
      obtain ⟨x, hx, hid⟩ := h.owned id c' hc'
      exact ⟨x, List.mem_append_left _ hx, hid⟩
  together x hx y hy hxy := by
    rcases List.mem_append.1 hx with hx | hx <;> rcases List.mem_append.1 hy with hy | hy
    · exact h.together x hx y hy hxy
    · obtain rfl := List.mem_singleton.1 hy
      exact (hcard x hx).2 hxy
    · obtain rfl := List.mem_singleton.1 hx
      exact ((hcard y hy).2 hxy.symm).symm
    · rw [List.mem_singleton.1 hx, List.mem_singleton.1 hy]
  firsts before x after hsplit := by
    rcases split_concat hsplit with ⟨rfl, rfl⟩ | ⟨rest, hrest⟩
    · exact hnew
    · exact h.firsts before x rest hrest

theorem Recorded.add (h : r.Recorded) {c : Card} (isNew : Bool) (keys : List String)
    (hlines : c.contactLines =
      ((r.filed.filter fun x => x.cardId == c.id).map fun x => x.message.entry) ++ [m.entry]) :
    (r.add c m isNew keys).Recorded := by
  intro id c' hc'
  replace hc' := (r.desk.card?_withCard c id).symm.trans hc'
  unfold Register.add
  rw [List.filter_append, List.map_append]
  split at hc'
  next hid =>
    cases hc'
    subst hid
    rw [hlines, List.filter_cons_of_pos (by exact beq_self_eq_true c.id)]
    rfl
  next hid =>
    rw [h id c' hc', List.filter_cons_of_neg (by simpa [Filed.cardId] using hid)]
    exact (List.append_nil _).symm

theorem contactLines_addTo (m : Message) (now : Time.Instant) (c : Card) :
    (m.addTo now c).contactLines = c.contactLines ++ [m.entry] := by
  have hentries : (m.addTo now c).entries = c.entries ++ [m.entry] := rfl
  unfold Card.contactLines
  rw [hentries, List.filter_append, List.filter_cons_of_pos (by rfl), List.filter_nil]

/-- What is kept when a message goes to a card on which its contact wrote before. -/
theorem Kept.addTo (h : r.Kept) (hkeys : r.NoCollision) {c : Card} {x : Filed}
    (hc : r.desk.card? c.id = some c) (hx : x ∈ r.filed) (hid : x.cardId = c.id)
    (hcontact : x.contact = m.contact) (now : Time.Instant) (keys : List String) :
    (r.add (m.addTo now c) m false keys).Kept := by
  obtain ⟨c', hc', hbelongs⟩ := h.belongs x hx
  obtain rfl : c = c' := by
    rw [hid, hc] at hc'
    exact Option.some.inj hc'
  obtain ⟨p, e, hpe, hkey, hname⟩ := h.named x hx
  have hsuits : c.Suits m.contact := hcontact ▸ hbelongs.toSuits
  refine h.add (hsuits.belongsTo_addTo now) ?_ (fun y hy => ?_) ?_
  · exact ⟨p, e, hpe.trans hcontact, List.mem_append_left _ hkey,
      (m.addTo_id now c).trans (hid.symm.trans hname)⟩
  · rw [Message.addTo_id, ← hid, ← hcontact]
    exact ⟨h.contact_eq hkeys hy hx, h.together y hy x hx⟩
  · refine iff_of_false Bool.false_ne_true fun hnone => ?_
    exact hnone x hx hcontact

/-- A contact who is not found and whose id is vacant has not written before. -/
theorem Kept.contact_ne (h : r.Kept) (hf : r.desk.find? m.platform m.sender = none)
    (hvacant : r.desk.card? (contactCardId m.platform m.sender) = none) {x : Filed}
    (hx : x ∈ r.filed) : x.contact ≠ m.contact := by
  intro hcontact
  obtain ⟨c, hc, hbelongs⟩ := h.belongs x hx
  by_cases hs : m.sender = ""
  -- a sender who gives nothing is never found, but their card has the one id they can have
  · obtain ⟨p, e, hpe, _, hname⟩ := h.named x hx
    have hblank : Contact.of m.platform "" = Contact.of p e := by
      rw [hpe, hcontact, ← hs]
      rfl
    obtain ⟨hp, he⟩ := Contact.eq_of_blank hblank
    rw [hname, ← hp, he, ← hs, hvacant] at hc
    cases hc
  · exact Desk.contact_ne_of_find? hf hs hc hbelongs hcontact.symm

theorem Kept.addNew (h : r.Kept) (hf : r.desk.find? m.platform m.sender = none)
    (hvacant : r.desk.card? (contactCardId m.platform m.sender) = none) (lane : Lane)
    (now : Time.Instant) :
    (r.add (m.addTo now (m.blankCard (contactCardId m.platform m.sender) lane now)) m true
      [contactKey m.platform m.sender]).Kept := by
  have hsuits := Card.suits_blankCard m (contactCardId m.platform m.sender) lane now m.contact
  refine h.add (hsuits.belongsTo_addTo now) ?_ (fun x hx => ?_) ?_
  · exact ⟨m.platform, m.sender, rfl, List.mem_append_right _ List.mem_cons_self,
      (m.addTo_id now _).trans (m.blankCard_id _ lane now)⟩
  · refine iff_of_false (fun hid => ?_) (h.contact_ne hf hvacant hx)
    obtain ⟨c, hc, _⟩ := h.belongs x hx
    have hid' : x.cardId = contactCardId m.platform m.sender := hid
    rw [hid', hvacant] at hc
    cases hc
  · exact iff_of_true rfl fun x hx => h.contact_ne hf hvacant hx

-- ---------------------------------------------------------------------------
-- Operations keep
-- ---------------------------------------------------------------------------

theorem NoCollision.mono {r' : Register} (h : r'.NoCollision)
    (hsub : ∀ key ∈ r.hashed, key ∈ r'.hashed) : r.NoCollision :=
  fun a ha b hb => h a (hsub a ha) b (hsub b hb)

theorem hashed_step (keyword : String) (r : Register) (x : Operation × Time.Instant) :
    ∀ key ∈ r.hashed, key ∈ (r.step keyword x).hashed := by
  obtain ⟨op, now⟩ := x
  rcases step_cases keyword r op now with ⟨m, rfl⟩ | ⟨d, hd, _⟩
  · intro key hkey
    show key ∈ (r.file keyword m now).hashed
    unfold file
    split
    · exact List.mem_append_left _ hkey
    · exact hkey
  · rw [hd]
    exact fun _ hkey => hkey

theorem hashed_foldl (keyword : String) (r : Register) (ops : List (Operation × Time.Instant)) :
    ∀ key ∈ r.hashed, key ∈ (ops.foldl (step keyword) r).hashed := by
  induction ops generalizing r with
  | nil => exact fun _ hkey => hkey
  | cons x ops ih => exact fun key hkey => ih _ key (hashed_step keyword r x key hkey)

theorem file_cases (h : r.Kept) (keyword : String) (m : Message) (now : Time.Instant)
    (hkeys : (r.file keyword m now).NoCollision) :
    r.file keyword m now = r ∨
      (∃ c x, r.desk.card? c.id = some c ∧ x ∈ r.filed ∧ x.cardId = c.id ∧ x.contact = m.contact ∧
        r.file keyword m now =
          r.add (m.addTo now c) m false (r.desk.hashedKey? m).toList) ∨
      ∃ lane, r.desk.find? m.platform m.sender = none ∧
        r.desk.card? (contactCardId m.platform m.sender) = none ∧
        r.file keyword m now =
          r.add (m.addTo now (m.blankCard (contactCardId m.platform m.sender) lane now)) m true
            [contactKey m.platform m.sender] := by
  unfold file at hkeys ⊢
  rcases Desk.receive_cases r.desk keyword m now with
    ⟨e, he⟩ | ⟨c, hc, hfind, he⟩ | ⟨lane, hf, hvacant, _, he⟩ <;> rw [he] at hkeys ⊢
  · exact .inl rfl
  · obtain ⟨x, hx, hid⟩ := h.owned c.id c hc
    refine .inr (.inl ⟨c, x, hc, hx, hid, ?_, by rw [add, Message.addTo_id]⟩)
    rcases hfind with hf | ⟨hf, hname⟩
    · obtain ⟨c', hc', hbelongs⟩ := h.belongs x hx
      rw [hid, hc] at hc'
      cases hc'
      exact (Desk.contact_of_find? hf hbelongs.toSuits).symm
    -- a card that is there under the id of the sender was made of a key with that id
    · obtain ⟨p, e, hpe, hkey, hxname⟩ := h.named x hx
      have hkey' : contactKey m.platform m.sender ∈
          r.hashed ++ (r.desk.hashedKey? m).toList := by
        rw [Desk.hashedKey?, hf]
        exact List.mem_append_right _ List.mem_cons_self
      have hids : contactCardId p e = contactCardId m.platform m.sender := by
        rw [← hxname, hid, hname]
      rw [← hpe]
      exact Contact.of_eq_of_contactKey
        (hkeys _ (List.mem_append_left _ hkey) _ hkey' hids)
  · refine .inr (.inr ⟨lane, hf, hvacant, ?_⟩)
    rw [Desk.hashedKey?, hf]
    rfl

theorem Kept.file (h : r.Kept) (hkeys : (r.file keyword m now).NoCollision) :
    (r.file keyword m now).Kept := by
  have hkeys' : r.NoCollision := hkeys.mono (hashed_step keyword r (.receive m, now))
  rcases file_cases h keyword m now hkeys with
    he | ⟨c, x, hc, hx, hid, hcontact, he⟩ | ⟨lane, hf, hvacant, he⟩ <;> rw [he]
  · exact h
  · exact h.addTo hkeys' hc hx hid hcontact now _
  · exact h.addNew hf hvacant lane now

theorem Recorded.file (hr : r.Recorded) (h : r.Kept)
    (hkeys : (r.file keyword m now).NoCollision) : (r.file keyword m now).Recorded := by
  rcases file_cases h keyword m now hkeys with
    he | ⟨c, x, hc, _, _, _, he⟩ | ⟨lane, _, hvacant, he⟩ <;> rw [he]
  · exact hr
  · refine hr.add false _ ?_
    rw [contactLines_addTo, hr c.id c hc, Message.addTo_id]
  · refine hr.add true _ ?_
    have hnone : (r.filed.filter fun x => x.cardId == contactCardId m.platform m.sender) = [] := by
      refine List.filter_eq_nil_iff.2 fun x hx hid => ?_
      obtain ⟨c, hc, _⟩ := h.belongs x hx
      rw [beq_iff_eq.1 hid, hvacant] at hc
      cases hc
    rw [contactLines_addTo, Message.addTo_id, Message.blankCard_id, hnone]
    rfl

theorem Kept.step (h : r.Kept) {x : Operation × Time.Instant}
    (hkeys : (r.step keyword x).NoCollision) : (r.step keyword x).Kept := by
  obtain ⟨op, now⟩ := x
  rcases step_cases keyword r op now with ⟨m, rfl⟩ | ⟨d, hd, ht⟩
  · exact h.file hkeys
  · rw [hd]
    exact h.tended ht

theorem Recorded.step (hr : r.Recorded) (h : r.Kept) {x : Operation × Time.Instant}
    (hforges : x.1.forges = false) (hkeys : (r.step keyword x).NoCollision) :
    (r.step keyword x).Recorded := by
  obtain ⟨op, now⟩ := x
  rcases step_cases keyword r op now with ⟨m, rfl⟩ | ⟨d, hd, ht⟩
  · exact hr.file h hkeys
  · rw [hd]
    exact hr.tended (hforges ▸ ht)

theorem Kept.foldl (h : r.Kept) {ops : List (Operation × Time.Instant)}
    (hkeys : (ops.foldl (Register.step keyword) r).NoCollision) :
    (ops.foldl (Register.step keyword) r).Kept := by
  induction ops generalizing r with
  | nil => exact h
  | cons x ops ih =>
    exact ih (h.step (hkeys.mono (hashed_foldl keyword (r.step keyword x) ops))) hkeys

theorem Recorded.foldl (hr : r.Recorded) (h : r.Kept) {ops : List (Operation × Time.Instant)}
    (hforges : ∀ x ∈ ops, x.1.forges = false)
    (hkeys : (ops.foldl (Register.step keyword) r).NoCollision) :
    (ops.foldl (Register.step keyword) r).Recorded := by
  induction ops generalizing r with
  | nil => exact hr
  | cons x ops ih =>
    have hkeys' := hkeys.mono (hashed_foldl keyword (r.step keyword x) ops)
    exact ih (hr.step h (hforges x List.mem_cons_self) hkeys') (h.step hkeys')
      (fun y hy => hforges y (List.mem_cons_of_mem x hy)) hkeys

-- ---------------------------------------------------------------------------
-- One card for each contact
-- ---------------------------------------------------------------------------

/-- A message of a contact went to a card. -/
def Holds (r : Register) (c : Card) (k : Contact) : Prop :=
  ∃ x ∈ r.filed, x.contact = k ∧ x.cardId = c.id

/-- Cards and contacts who wrote are in correspondence, by the messages that went to the cards. -/
structure OneCardEach (r : Register) : Prop where
  sameCard : ∀ x ∈ r.filed, ∀ y ∈ r.filed, x.cardId = y.cardId ↔ x.contact = y.contact
  oneCard : ∀ x ∈ r.filed, ∃ c ∈ r.desk.cards.items,
    ∀ c' ∈ r.desk.cards.items, r.Holds c' x.contact ↔ c' = c
  oneContact : ∀ c ∈ r.desk.cards.items, ∃ k, ∀ k', r.Holds c k' ↔ k' = k
  firsts : ∀ before x after, r.filed = before ++ x :: after →
    (x.arrival.isNew = true ↔ ∀ y ∈ before, y.contact ≠ x.contact)

theorem Kept.sameCard (h : r.Kept) (hkeys : r.NoCollision) {x y : Filed} (hx : x ∈ r.filed)
    (hy : y ∈ r.filed) : x.cardId = y.cardId ↔ x.contact = y.contact :=
  ⟨h.contact_eq hkeys hx hy, h.together x hx y hy⟩

theorem Kept.oneCardEach (h : r.Kept) (hkeys : r.NoCollision) : r.OneCardEach where
  sameCard x hx y hy := h.sameCard hkeys hx hy
  oneCard x hx := by
    obtain ⟨c, hc, _⟩ := h.belongs x hx
    refine ⟨c, Desk.mem_cards_of_card? hc, fun c' hc' => ⟨?_, ?_⟩⟩
    · rintro ⟨y, hy, hcontact, hid⟩
      rw [h.together x hx y hy hcontact.symm, hid, Desk.mem_cards_iff.1 hc'] at hc
      exact Option.some.inj hc
    · rintro rfl
      exact ⟨x, hx, rfl, (Desk.id_of_card? hc).symm⟩
  oneContact c hc := by
    obtain ⟨x, hx, hid⟩ := h.owned c.id c (Desk.mem_cards_iff.1 hc)
    refine ⟨x.contact, fun k => ⟨?_, ?_⟩⟩
    · rintro ⟨y, hy, rfl, hid'⟩
      exact h.contact_eq hkeys hy hx (hid'.trans hid.symm)
    · rintro rfl
      exact ⟨x, hx, rfl, hid⟩
  firsts := h.firsts

/-- Over any operations each contact has one card. It holds of their lines what they sent, in its
order, provided that no outbound line was appended with the contact for its author. -/
theorem one_card_each (keyword : String) (ops : List (Operation × Time.Instant))
    (hkeys : (run keyword ops).NoCollision) :
    (run keyword ops).OneCardEach ∧
      ((∀ x ∈ ops, x.1.forges = false) →
        ∀ c ∈ (run keyword ops).desk.cards.items, ∀ k, (run keyword ops).Holds c k →
          c.contactLines = ((run keyword ops).filed.filter fun x => x.contact == k).map
            fun x => x.message.entry) := by
  have hkept : (run keyword ops).Kept := kept_empty.foldl hkeys
  refine ⟨hkept.oneCardEach hkeys, fun hforges c hc k hholds => ?_⟩
  have hrecorded : (run keyword ops).Recorded := recorded_empty.foldl kept_empty hforges hkeys
  obtain ⟨x, hx, rfl, hid⟩ := hholds
  rw [hrecorded c.id c (Desk.mem_cards_iff.1 hc)]
  refine congrArg _ (List.filter_congr fun y hy => ?_)
  rw [← hid, Bool.eq_iff_iff, beq_iff_eq, beq_iff_eq]
  exact hkept.sameCard hkeys hy hx

-- ---------------------------------------------------------------------------
-- One number on two platforms
-- ---------------------------------------------------------------------------

/-- One number, written in two ways on two platforms, and a stranger between. -/
def twoPlatforms : List (Operation × Time.Instant) :=
  [(.putLane ⟨"inbox", "Bandeja", some 0⟩, ⟨0, 0⟩),
    (.receive (.ofText .whatsApp "+52 155 0001" "Hola"), ⟨1, 0⟩),
    (.receive (.ofText .telegram "42" "Buenas"), ⟨2, 0⟩),
    (.receive (.ofText .sms "521550001" "Sigo aquí"), ⟨3, 0⟩)]

theorem one_card_each_two_platforms :
    (run "inbox" twoPlatforms).NoCollision ∧ (run "inbox" twoPlatforms).OneCardEach ∧
      ∀ c ∈ (run "inbox" twoPlatforms).desk.cards.items,
        (run "inbox" twoPlatforms).Holds c (.phone "521550001") →
          c.contactLines.map Entry.text = ["Hola", "Sigo aquí"] := by
  have hkeys : (run "inbox" twoPlatforms).NoCollision := by
    unfold NoCollision
    decide +kernel
  have hforges : ∀ x ∈ twoPlatforms, x.1.forges = false := by decide
  obtain ⟨heach, hlines⟩ := one_card_each "inbox" twoPlatforms hkeys
  refine ⟨hkeys, heach, fun c hc hholds => ?_⟩
  rw [hlines hforges c hc _ hholds]
  decide +kernel

/-- An outbound line with the contact for its author is not what the contact sent. -/
theorem forged_line_on_card :
    let r := run "inbox" [(.putLane ⟨"inbox", "Bandeja", some 0⟩, ⟨0, 0⟩),
      (.receive (.ofText .webChat "s1" "Hola"), ⟨1, 0⟩),
      (.appendOutbound (contactCardId .webChat "s1") .contact "x", ⟨2, 0⟩)]
    r.NoCollision ∧ ∃ c ∈ r.desk.cards.items, r.Holds c (.account .webChat "s1") ∧
      c.contactLines ≠ (r.filed.filter fun x => x.contact == .account .webChat "s1").map
        fun x => x.message.entry := by
  unfold NoCollision Holds
  decide +kernel

end Register

end Switchboard
