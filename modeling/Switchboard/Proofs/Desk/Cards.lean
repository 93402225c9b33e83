import Mathlib.Data.List.Induction
import Switchboard.Desk.Changes
import Switchboard.Desk.Inbound

/-!
# What a change leaves on the desk

Every change replaces one card, or adds one, and the desk is otherwise as before. Each operation is
read here once, as the card it puts in place (`setPosition_of_card?`, `receive_cases`); what follows
from the operations cites these equations and does not look into them.
-/

namespace Switchboard

-- ---------------------------------------------------------------------------
-- Members of a catalog
-- ---------------------------------------------------------------------------

namespace Catalog

variable {α : Type} {key : α → String}

theorem find?_of_mem {x : α} {xs : List α} (h : xs.Pairwise fun a b => key a < key b)
    (hx : x ∈ xs) : xs.find? (fun y => key y == key x) = some x := by
  induction xs with
  | nil => simp at hx
  | cons y ys ih =>
    obtain ⟨hy, hys⟩ := List.pairwise_cons.1 h
    rcases List.mem_cons.1 hx with rfl | hx
    · simp
    · have hne : key y ≠ key x := fun e => String.lt_irrefl _ (e ▸ hy x hx)
      simp [hne, ih hys hx]

/-- The members of a catalog are what it answers with. -/
theorem mem_items_iff {c : Catalog α key} {x : α} : x ∈ c.items ↔ c.get? (key x) = some x :=
  ⟨find?_of_mem c.ascending, List.mem_of_find?_eq_some⟩

theorem get?_eq_some {c : Catalog α key} {k : String} {x : α} :
    c.get? k = some x ↔ key x = k ∧ x ∈ c.items := by
  constructor
  · intro h
    obtain rfl := key_of_get? h
    exact ⟨rfl, mem_items_iff.2 h⟩
  · rintro ⟨rfl, hx⟩
    exact mem_items_iff.1 hx

theorem eq_of_key_eq {c : Catalog α key} {x y : α} (hx : x ∈ c.items) (hy : y ∈ c.items)
    (h : key x = key y) : x = y := by
  rw [mem_items_iff] at hx hy
  rw [h, hy] at hx
  exact (Option.some.inj hx).symm

/-- A catalog is known by its members. -/
theorem ext_mem {c d : Catalog α key} (h : ∀ x, x ∈ c.items ↔ x ∈ d.items) : c = d :=
  ext_get? fun k => Option.ext fun x => by rw [get?_eq_some, get?_eq_some, h]

theorem nodup_keys (c : Catalog α key) : (c.items.map key).Nodup := by
  have hkeys : (c.items.map key).Pairwise fun a b => a < b := List.pairwise_map.2 c.ascending
  refine hkeys.imp ?_
  rintro k _ hlt rfl
  exact String.lt_irrefl k hlt

theorem get?_put (c : Catalog α key) (x : α) (k : String) :
    (c.put x).get? k = if key x = k then some x else c.get? k := by
  split
  next h => subst h; exact get?_put_self c x
  next h => exact get?_put_of_ne c h

/-- Putting a member where it is already changes nothing. -/
theorem put_of_get? {c : Catalog α key} {x : α} (h : c.get? (key x) = some x) : c.put x = c := by
  refine ext_get? fun k => ?_
  rw [get?_put]
  split
  next hk => subst hk; exact h.symm
  next => rfl

/-- Of the members with its key, one was put last. -/
def IsLatest (key : α → String) (xs : List α) (x : α) : Prop :=
  ∃ before after, xs = before ++ x :: after ∧ ∀ y ∈ after, key y ≠ key x

theorem isLatest_concat {xs : List α} {x y : α} :
    IsLatest key (xs ++ [y]) x ↔ y = x ∨ key y ≠ key x ∧ IsLatest key xs x := by
  constructor
  · rintro ⟨before, after, h, hafter⟩
    obtain rfl | ⟨rest, z, rfl⟩ := after.eq_nil_or_concat
    · exact .inl (by simpa using (List.append_inj' h rfl).2)
    · rw [List.concat_eq_append, ← List.cons_append, ← List.append_assoc] at h
      obtain ⟨rfl, hz⟩ := List.append_inj' h rfl
      obtain rfl : y = z := by simpa using hz
      exact .inr ⟨hafter y (by simp), before, rest, rfl, fun w hw => hafter w (by simp [hw])⟩
  · rintro (rfl | ⟨hne, before, after, rfl, hafter⟩)
    · exact ⟨xs, [], rfl, nofun⟩
    · refine ⟨before, after ++ [y], by simp, fun w hw => ?_⟩
      rcases List.mem_append.1 hw with hw | hw
      · exact hafter w hw
      · rwa [List.mem_singleton.1 hw]

/-- A catalog that was filled member by member holds those that were put last. -/
theorem mem_ofList {xs : List α} {x : α} :
    x ∈ (ofList xs : Catalog α key).items ↔ IsLatest key xs x := by
  induction xs using List.reverseRecOn with
  | nil => simp [ofList, empty, IsLatest]
  | append_singleton xs y ih =>
    have hput : (ofList (xs ++ [y]) : Catalog α key) = (ofList xs).put y := by simp [ofList]
    rw [hput, mem_items_iff, get?_put, isLatest_concat, ← ih, mem_items_iff]
    split
    next h => simp [h]
    next h =>
      have hne : y ≠ x := fun hyx => h (congrArg key hyx)
      simp [h, hne]

end Catalog

theorem Dictionary.value?_set {β : Type} (d : Dictionary β) (name other : String) (value : β) :
    (d.set name value).value? other = if name = other then some value else d.value? other := by
  split
  next h => subst h; exact value?_set_self d name value
  next h => exact value?_set_of_ne d value h

-- ---------------------------------------------------------------------------
-- Cards in their place
-- ---------------------------------------------------------------------------

/-- The card as changed at a time. -/
def Card.touch (c : Card) (now : Time.Instant) : Card :=
  { c with updatedAt := Time.later c.updatedAt now }

/-- The card with a new name of the contact; a blank one changes nothing. -/
def Card.renamed (c : Card) (name : String) (now : Time.Instant) : Card :=
  if (Text.trim name).isEmpty then c else Card.touch { c with contactName := Text.trim name } now

@[simp] theorem Card.renamed_id (c : Card) (name : String) (now : Time.Instant) :
    (c.renamed name now).id = c.id := by
  unfold Card.renamed
  split <;> rfl

@[simp] theorem Card.renamed_position (c : Card) (name : String) (now : Time.Instant) :
    (c.renamed name now).position = c.position := by
  unfold Card.renamed
  split <;> rfl

@[simp] theorem Card.renamed_entries (c : Card) (name : String) (now : Time.Instant) :
    (c.renamed name now).entries = c.entries := by
  unfold Card.renamed
  split <;> rfl

@[simp] theorem Card.renamed_lastPlatform (c : Card) (name : String) (now : Time.Instant) :
    (c.renamed name now).lastPlatform = c.lastPlatform := by
  unfold Card.renamed
  split <;> rfl

@[simp] theorem Message.addTo_id (m : Message) (now : Time.Instant) (c : Card) :
    (m.addTo now c).id = c.id := rfl

theorem Message.details_addTo (m : Message) (now : Time.Instant) (c : Card) (p : Platform) :
    (m.addTo now c).details p =
      if p = m.platform ∧ m.details.isSome then m.details else c.details p := by
  unfold addTo
  cases m.details <;> simp [PerPlatform.set, Card.append]

@[simp] theorem Message.blankCard_id (m : Message) (id : String) (lane : Lane)
    (now : Time.Instant) : (m.blankCard id lane now).id = id := rfl

/-- A message of a text and nothing else. -/
def Message.ofText (p : Platform) (sender text : String) : Message where
  platform := p
  sender := sender
  contactName := ""
  text := text
  kind := .text
  sentAt := ⟨0, 0⟩
  id := none
  mediaUrl := none
  details := none
  reply := none
  place := none

namespace Desk

/-- The desk with a card in its place. -/
def withCard (d : Desk) (c : Card) : Desk := { d with cards := d.cards.put c }

variable {d : Desk} {c : Card} {id : String} {now : Time.Instant} {f : Card → Card}

theorem card?_withCard (d : Desk) (c : Card) (id : String) :
    (d.withCard c).card? id = if c.id = id then some c else d.card? id :=
  Catalog.get?_put d.cards c id

@[simp] theorem card?_withCard_self (d : Desk) (c : Card) : (d.withCard c).card? c.id = some c :=
  Catalog.get?_put_self d.cards c

theorem id_of_card? (h : d.card? id = some c) : c.id = id := Catalog.key_of_get? h

theorem withCard_of_card? (h : d.card? id = some c) : d.withCard c = d := by
  have hc : d.cards.get? c.id = some c := by rw [id_of_card? h]; exact h
  show { d with cards := d.cards.put c } = d
  rw [Catalog.put_of_get? hc]

theorem mem_cards_iff : c ∈ d.cards.items ↔ d.card? c.id = some c := Catalog.mem_items_iff

/-- The lines under an id; where there is no card there are none. -/
def linesUnder (d : Desk) (id : String) : List Entry := ((d.card? id).map Card.entries).getD []

theorem linesUnder_of_card? (h : d.card? id = some c) : d.linesUnder id = c.entries := by
  simp [linesUnder, h]

theorem linesUnder_of_vacant (h : d.card? id = none) : d.linesUnder id = [] := by
  simp [linesUnder, h]

theorem linesUnder_withCard (d : Desk) (c : Card) (id : String) :
    (d.withCard c).linesUnder id = if c.id = id then c.entries else d.linesUnder id := by
  unfold linesUnder
  rw [card?_withCard]
  split <;> rfl

theorem mem_cards_of_card? (h : d.card? id = some c) : c ∈ d.cards.items := by
  rw [mem_cards_iff, id_of_card? h]; exact h

-- ---------------------------------------------------------------------------
-- Changes to a card that is there
-- ---------------------------------------------------------------------------

theorem transact_eq_ok {change : Option Card → Except DeskError Card}
    (h : change (d.card? id) = .ok c) (hid : c.id = id) :
    d.transact id change = .ok (c, d.withCard c) := by
  simp [transact, h, hid, withCard]

theorem change_of_card? (h : d.card? id = some c) (hf : (f c).id = c.id) :
    d.change id now f = .ok ((f c).touch now, d.withCard ((f c).touch now)) := by
  refine transact_eq_ok ?_ (hf.trans (id_of_card? h))
  rw [h]; rfl

theorem change_of_none (h : d.card? id = none) : d.change id now f = .error (.cardNotFound id) := by
  simp [change, transact, h]

/-- A change that keeps the id is refused only where there is no card. -/
theorem change_cases (d : Desk) (id : String) (now : Time.Instant) (hf : ∀ c, (f c).id = c.id) :
    d.change id now f = .error (.cardNotFound id) ∨
      ∃ c, d.card? id = some c ∧
        d.change id now f = .ok ((f c).touch now, d.withCard ((f c).touch now)) := by
  cases h : d.card? id with
  | none => exact .inl (change_of_none h)
  | some c => exact .inr ⟨c, rfl, change_of_card? h (hf c)⟩

/-- The desk after a change that was not refused. -/
theorem eq_withCard_of_change {d' : Desk} (hf : ∀ c, (f c).id = c.id)
    (h : (d.change id now f).map Prod.snd = .ok d') :
    ∃ c, d.card? c.id = some c ∧ d' = d.withCard ((f c).touch now) := by
  rcases change_cases d id now hf with he | ⟨c, hc, he⟩ <;> rw [he] at h <;> cases h
  obtain rfl := id_of_card? hc
  exact ⟨c, hc, rfl⟩

theorem setPosition_of_card? (h : d.card? id = some c) (p : Position) :
    d.setPosition id p now =
      .ok (d.withCard (Card.touch { c with position := some p } now)) := by
  unfold setPosition
  rw [change_of_card? h rfl]; rfl

theorem appendOutbound_of_card? (h : d.card? id = some c) (author : Author) (text : String) :
    d.appendOutbound id author text now =
      .ok ((c.append (outboundEntry c author text now)).touch now,
        d.withCard ((c.append (outboundEntry c author text now)).touch now)) := by
  unfold appendOutbound
  rw [change_of_card? h rfl]

theorem learn_of_card? (h : d.card? id = some c) (name value : String) :
    d.learn id name value now =
      .ok (d.withCard (Card.touch { c with fields := c.fields.set name value } now)) := by
  unfold learn
  rw [change_of_card? h rfl]; rfl

theorem rename_of_card? (h : d.card? id = some c) (name : String) :
    d.rename id name now = .ok (d.withCard (c.renamed name now)) := by
  unfold rename Card.renamed
  by_cases hn : (Text.trim name).isEmpty
  · simp only [hn, if_true]
    rw [withCard_of_card? h]
  · simp only [hn]
    rw [change_of_card? h rfl]; rfl

-- ---------------------------------------------------------------------------
-- Finding a card
-- ---------------------------------------------------------------------------

theorem mem_of_oldest? {cs : List Card} (h : oldest? cs = some c) : c ∈ cs := by
  induction cs generalizing c with
  | nil => simp [oldest?] at h
  | cons x xs ih =>
    unfold oldest? at h
    cases hx : oldest? xs with
    | none =>
      simp only [hx, Option.some.injEq] at h
      exact h ▸ List.mem_cons_self
    | some y =>
      simp only [hx, Option.some.injEq] at h
      split at h
      · exact h ▸ List.mem_cons_of_mem _ (ih hx)
      · exact h ▸ List.mem_cons_self

theorem eq_nil_of_oldest? {cs : List Card} (h : oldest? cs = none) : cs = [] := by
  cases cs with
  | nil => rfl
  | cons x xs =>
    unfold oldest? at h
    split at h <;> cases h

theorem oldestWhere?_some {test : Card → Bool} (h : d.oldestWhere? test = some c) :
    d.card? c.id = some c ∧ test c = true := by
  obtain ⟨hc, ht⟩ := List.mem_filter.1 (mem_of_oldest? h)
  exact ⟨mem_cards_iff.1 hc, ht⟩

theorem oldestWhere?_none {test : Card → Bool} (h : d.oldestWhere? test = none)
    (hc : d.card? id = some c) : test c = false := by
  have := List.filter_eq_nil_iff.1 (eq_nil_of_oldest? h) c (mem_cards_of_card? hc)
  simpa using this

/-- A card that is found is on the desk, and has the address, the digits or the number that were
asked for. -/
theorem find?_some {p : Platform} {sender : String} (h : d.find? p sender = some c) :
    d.card? c.id = some c ∧ sender ≠ "" ∧
      (c.addresses p = some sender ∨
        p.usesPhone = true ∧ (phoneDigits sender ≠ "" ∧ c.phone = some (phoneDigits sender) ∨
          c.contactNumber = some sender)) := by
  unfold find? at h
  split at h
  · cases h
  next hs =>
    have hs : sender ≠ "" := by simpa using hs
    split at h
    next x hx =>
      obtain ⟨hd, ht⟩ := oldestWhere?_some hx
      cases h
      exact ⟨hd, hs, .inl (by simpa using ht)⟩
    next =>
      split at h
      · cases h
      next hp =>
        have hp : p.usesPhone = true := by simpa using hp
        dsimp only at h
        split at h
        next x hx =>
          split at hx
          · cases hx
          next hdigits =>
            obtain ⟨hd, ht⟩ := oldestWhere?_some hx
            cases h
            exact ⟨hd, hs, .inr ⟨hp, .inl ⟨by simpa using hdigits, by simpa using ht⟩⟩⟩
        next =>
          obtain ⟨hd, ht⟩ := oldestWhere?_some h
          exact ⟨hd, hs, .inr ⟨hp, .inr (by simpa using ht)⟩⟩

/-- A contact who is not found has no card with their address, nor, on platforms that use telephone
numbers, one with their digits or their number. -/
theorem find?_none {p : Platform} {sender : String} (h : d.find? p sender = none)
    (hs : sender ≠ "") (hc : d.card? id = some c) :
    c.addresses p ≠ some sender ∧ (p.usesPhone = true →
      (phoneDigits sender ≠ "" → c.phone ≠ some (phoneDigits sender)) ∧
        c.contactNumber ≠ some sender) := by
  unfold find? at h
  split at h
  next he => exact absurd (by simpa using he) hs
  next =>
    split at h
    · cases h
    next hx =>
      refine ⟨by simpa using oldestWhere?_none hx hc, fun hp => ?_⟩
      split at h
      next hn => simp [hp] at hn
      next =>
        dsimp only at h
        split at h
        · cases h
        next hy =>
          refine ⟨fun hdigits => ?_, by simpa using oldestWhere?_none h hc⟩
          split at hy
          next he => exact absurd (by simpa using he) hdigits
          next => simpa using oldestWhere?_none hy hc

theorem markRead_cases (d : Desk) (p : Platform) (sender : String) (now : Time.Instant) :
    d.markRead p sender now = .ok (none, d) ∨
      ∃ c, d.card? c.id = some c ∧ d.markRead p sender now =
        .ok (some c.id, d.withCard (Card.touch { c with lastReadAt := some now } now)) := by
  unfold markRead
  cases h : d.find? p sender with
  | none => exact .inl rfl
  | some c =>
    refine .inr ⟨c, (find?_some h).1, ?_⟩
    simp only
    rw [change_of_card? (find?_some h).1 rfl]; rfl

-- ---------------------------------------------------------------------------
-- Messages at the desk
-- ---------------------------------------------------------------------------

theorem lane_of_defaultLane {keyword : String} {lane : Lane}
    (h : d.defaultLane keyword = .ok lane) : d.lanes.get? lane.id = some lane := by
  unfold defaultLane at h
  simp only at h
  split at h
  next l hl =>
    cases h
    refine Catalog.mem_items_iff.1 ?_
    have hmem : lane ∈ d.allLanes := by
      rcases Option.or_eq_some_iff.1 hl with h | ⟨_, h⟩ <;> exact List.mem_of_find?_eq_some h
    exact (List.mem_mergeSort).1 hmem
  · cases h

/-- The lane for new cards depends on the lanes alone. -/
theorem defaultLane_congr {d' : Desk} (h : d.lanes = d'.lanes) (keyword : String) :
    d.defaultLane keyword = d'.defaultLane keyword := by
  unfold defaultLane allLanes
  rw [h]

variable {keyword : String} {m : Message}

theorem deposit_of_card? {r : Route} (h : d.card? r.cardId = some c) :
    d.deposit r m now = .ok (⟨r.cardId, false⟩, d.withCard (m.addTo now c)) := by
  unfold deposit
  have hid : (m.addTo now c).id = r.cardId := by rw [Message.addTo_id, id_of_card? h]
  rw [transact_eq_ok (by rw [h]) hid]
  simp [Except.map, h]

theorem deposit_of_vacant {r : Route} {lane : Lane} (h : d.card? r.cardId = none)
    (hl : r.lane = some lane) :
    d.deposit r m now =
      .ok (⟨r.cardId, true⟩, d.withCard (m.addTo now (m.blankCard r.cardId lane now))) := by
  unfold deposit
  have hid : (m.addTo now (m.blankCard r.cardId lane now)).id = r.cardId := rfl
  rw [transact_eq_ok (by rw [h, hl]) hid]
  simp [Except.map, h]

/-- A message of a contact who is found goes to their card. -/
theorem receive_of_found (h : d.find? m.platform m.sender = some c) :
    d.receive keyword m now = .ok (⟨c.id, false⟩, d.withCard (m.addTo now c)) := by
  unfold receive route
  simp only [h]
  exact deposit_of_card? (find?_some h).1

/-- A message of a contact who is not found goes to the card of their key, which may be there
already. -/
theorem receive_of_unknown {lane : Lane} (h : d.find? m.platform m.sender = none)
    (hl : d.defaultLane keyword = .ok lane) :
    d.receive keyword m now =
      d.deposit ⟨contactCardId m.platform m.sender, some lane⟩ m now := by
  unfold receive route
  simp [h, hl, Except.map]

theorem receive_of_no_lane {e : DeskError} (h : d.find? m.platform m.sender = none)
    (hl : d.defaultLane keyword = .error e) : d.receive keyword m now = .error e := by
  unfold receive route
  simp [h, hl, Except.map]

/-- What becomes of a message: there is no lane for its contact, or it goes to a card that is there,
or to a new one under the id of its contact. -/
theorem receive_cases (d : Desk) (keyword : String) (m : Message) (now : Time.Instant) :
    (∃ e, d.receive keyword m now = .error e) ∨
      (∃ c, d.card? c.id = some c ∧
        (d.find? m.platform m.sender = some c ∨ d.find? m.platform m.sender = none ∧
          c.id = contactCardId m.platform m.sender) ∧
        d.receive keyword m now = .ok (⟨c.id, false⟩, d.withCard (m.addTo now c))) ∨
      ∃ lane, d.find? m.platform m.sender = none ∧
        d.card? (contactCardId m.platform m.sender) = none ∧ d.lanes.get? lane.id = some lane ∧
        d.receive keyword m now = .ok (⟨contactCardId m.platform m.sender, true⟩,
          d.withCard (m.addTo now (m.blankCard (contactCardId m.platform m.sender) lane now))) := by
  cases hf : d.find? m.platform m.sender with
  | some c => exact .inr (.inl ⟨c, (find?_some hf).1, .inl rfl, receive_of_found hf⟩)
  | none =>
    cases hl : d.defaultLane keyword with
    | error e => exact .inl ⟨e, receive_of_no_lane hf hl⟩
    | ok lane =>
      rw [receive_of_unknown hf hl]
      -- the id need not be computed
      generalize contactCardId m.platform m.sender = id
      cases hc : d.card? id with
      | some c =>
        obtain rfl := id_of_card? hc
        exact .inr (.inl ⟨c, hc, .inr ⟨rfl, rfl⟩, deposit_of_card? hc⟩)
      | none =>
        exact .inr (.inr ⟨lane, rfl, rfl, lane_of_defaultLane hl, deposit_of_vacant hc rfl⟩)

end Desk

end Switchboard
