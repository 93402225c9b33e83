import Mathlib.Data.List.Nodup
import Switchboard.Proofs.Desk.OneCard

/-!
# Deliveries that overlap

A message is routed first and deposited later, and between the two steps any number of other
messages may be routed and deposited. Whatever their order, each message is deposited once, on the
card of its contact, and one of those that come to a new card is its first (`settles`). What carries
this is that a route leads to the id made of the contact's key even if it was found by looking at
the cards (`Bound`): so it does not matter how old it is.
-/

namespace Switchboard

-- ---------------------------------------------------------------------------
-- Messages on their way
-- ---------------------------------------------------------------------------

/-- How far the delivery of a message has come. -/
inductive Transit where
  | waiting
  | routed (route : Route)
  | arrived (a : Arrival)
  | refused (e : DeskError)

structure Parcel where
  message : Message
  transit : Transit

/-- A register, and the messages that are on their way to its desk. -/
structure Traffic where
  register : Register
  parcels : List Parcel

/-- A message that is known by a number, where numbers are used. -/
def Message.Numbered (m : Message) : Prop :=
  m.platform.usesPhone = true → phoneDigits m.sender ≠ ""

/-- Two messages from one address, or from one number however it is written. -/
def Message.SameSender (m n : Message) : Prop :=
  (m.platform = n.platform ∧ m.sender = n.sender) ∨
    (m.platform.usesPhone = true ∧ n.platform.usesPhone = true ∧ phoneDigits m.sender ≠ "" ∧
      phoneDigits m.sender = phoneDigits n.sender)

/-- The message with where it went, once it has arrived. -/
def Parcel.filed? (x : Parcel) : Option Filed :=
  match x.transit with
  | .arrived a => some ⟨x.message, a⟩
  | _ => none

/-- The next step of a message on its way. A route is found by reading the desk alone, and nothing
is read again when the message is deposited. -/
def Register.forward (keyword : String) (r : Register) (x : Parcel) (now : Time.Instant) :
    Register × Parcel :=
  match x.transit with
  | .waiting =>
    match r.desk.route keyword x.message with
    | .ok route =>
      ({ r with hashed := r.hashed ++ (r.desk.hashedKey? x.message).toList },
        { x with transit := .routed route })
    | .error e => (r, { x with transit := .refused e })
  | .routed route =>
    match r.desk.deposit route x.message now with
    | .ok (a, d) =>
      (⟨d, r.filed ++ [⟨x.message, a⟩], r.hashed⟩, { x with transit := .arrived a })
    | .error e => (r, { x with transit := .refused e })
  | .arrived _ | .refused _ => (r, x)

namespace Traffic

/-- Messages that come at the same time. -/
def setOut (r : Register) (ms : List Message) : Traffic := ⟨r, ms.map fun m => ⟨m, .waiting⟩⟩

/-- A message, by its place, takes its next step. -/
def step (keyword : String) (t : Traffic) (turn : Nat × Time.Instant) : Traffic :=
  match t.parcels[turn.1]? with
  | none => t
  | some x =>
    let (r, x) := t.register.forward keyword x turn.2
    ⟨r, t.parcels.set turn.1 x⟩

def run (keyword : String) (t : Traffic) (turns : List (Nat × Time.Instant)) : Traffic :=
  turns.foldl (step keyword) t

end Traffic

-- ---------------------------------------------------------------------------
-- The id of a contact
-- ---------------------------------------------------------------------------

namespace Contact

variable {p q : Platform} {e e' : String}

theorem of_account (hp : p.usesPhone = false) : of p e = .account p e := by
  simp [of, hp]

/-- Senders who are one contact have one key, if what they give for a number has digits. -/
theorem contactKey_eq (h : of p e = of q e') (hq : q.usesPhone = true → phoneDigits e' ≠ "") :
    contactKey p e = contactKey q e' := by
  cases hphone : q.usesPhone with
  | true =>
    rw [of_digits hphone (hq hphone)] at h
    obtain ⟨hp, hdigits⟩ := eq_of_phone h
    simp [contactKey, hp, hphone, hdigits, hq hphone]
  | false =>
    rw [of_account hphone] at h
    obtain ⟨rfl, rfl⟩ := eq_of_account h
    rfl

end Contact

theorem Message.contact_eq_of_sameSender {m n : Message} (h : m.SameSender n) :
    m.contact = n.contact := Contact.of_eq_of_contactKey (contactKey_eq_iff.2 h)

-- ---------------------------------------------------------------------------
-- One step of one message
-- ---------------------------------------------------------------------------

namespace Register

/-- A route leads to the id that is made of the contact's key, and to a card that is there unless it
names a lane for a new one. -/
structure Bound (r : Register) (m : Message) (route : Route) : Prop where
  id : route.cardId = contactCardId m.platform m.sender
  hashed : contactKey m.platform m.sender ∈ r.hashed
  lane : route.lane = none → r.desk.card? route.cardId ≠ none

variable {r : Register} {m : Message} {route : Route} {keyword : String}

theorem Kept.rehash (h : r.Kept) (keys : List String) :
    Kept { r with hashed := r.hashed ++ keys } where
  named x hx := by
    obtain ⟨p, e, hpe, hkey, hid⟩ := h.named x hx
    exact ⟨p, e, hpe, List.mem_append_left _ hkey, hid⟩
  belongs := h.belongs
  owned := h.owned
  together := h.together
  firsts := h.firsts

theorem Bound.rehash (h : r.Bound m route) (keys : List String) :
    Bound { r with hashed := r.hashed ++ keys } m route :=
  { h with hashed := List.mem_append_left _ h.hashed }

/-- A route stays good while other messages are deposited. -/
theorem Bound.add (h : r.Bound m route) (c : Card) (other : Message) (isNew : Bool)
    (keys : List String) : (r.add c other isNew keys).Bound m route where
  id := h.id
  hashed := List.mem_append_left _ h.hashed
  lane hlane := by
    show (r.desk.withCard c).card? route.cardId ≠ none
    rw [Desk.card?_withCard]
    split
    · simp
    · exact h.lane hlane

/-- The id of a card is made of the key of every message of its contact, and that key is known. -/
theorem Kept.id_of_contact (h : r.Kept) {x : Filed} (hx : x ∈ r.filed)
    (hcontact : x.contact = m.contact) (hm : m.Numbered) :
    x.cardId = contactCardId m.platform m.sender ∧ contactKey m.platform m.sender ∈ r.hashed := by
  obtain ⟨p, e, hpe, hkey, hid⟩ := h.named x hx
  have hsame : contactKey p e = contactKey m.platform m.sender :=
    Contact.contactKey_eq (hpe.trans hcontact) hm
  unfold contactCardId at hid ⊢
  rw [← hsame]
  exact ⟨hid, hkey⟩

theorem Kept.bound (h : r.Kept) (hm : m.Numbered) {lane : Lane}
    (hlane : r.desk.defaultLane keyword = .ok lane) :
    ∃ route, r.desk.route keyword m = .ok route ∧
      Bound { r with hashed := r.hashed ++ (r.desk.hashedKey? m).toList } m route := by
  unfold Desk.route Desk.hashedKey?
  cases hf : r.desk.find? m.platform m.sender with
  | none =>
    rw [hlane]
    refine ⟨_, rfl, rfl, ?_, ?_⟩
    · simp
    · rintro ⟨⟩
  | some c =>
    have hc := (Desk.find?_some hf).1
    obtain ⟨x, hx, hid⟩ := h.owned c.id c hc
    obtain ⟨c', hc', hbelongs⟩ := h.belongs x hx
    obtain rfl : c = c' := by
      rw [hid, hc] at hc'
      exact Option.some.inj hc'
    have hcontact : x.contact = m.contact := (Desk.contact_of_find? hf hbelongs.toSuits).symm
    obtain ⟨hname, hkey⟩ := h.id_of_contact hx hcontact hm
    refine ⟨_, rfl, hid.symm.trans hname, List.mem_append_left _ hkey, fun _ => ?_⟩
    rw [hc]
    rintro ⟨⟩

/-- What depositing a message leaves: one card in its place, with the message for its last line. It
is new exactly if there was none. -/
theorem Kept.deposit (h : r.Kept) (hkeys : r.NoCollision) (hm : m.Numbered)
    (hb : r.Bound m route) (now : Time.Instant) :
    ∃ c isNew, r.desk.deposit route m now = .ok (⟨c.id, isNew⟩, r.desk.withCard c) ∧
      c.entries = r.desk.linesUnder c.id ++ [m.entry] ∧
      (isNew = true ↔ r.desk.card? c.id = none) ∧ (r.add c m isNew []).Kept := by
  cases hc : r.desk.card? route.cardId with
  | some c =>
    have hid := Desk.id_of_card? hc
    obtain ⟨x, hx, hxid⟩ := h.owned _ c hc
    -- ids are equal only where keys are
    have hcontact : x.contact = m.contact := by
      obtain ⟨p, e, hpe, hkey, hname⟩ := h.named x hx
      have hsame : contactCardId p e = contactCardId m.platform m.sender := by
        rw [← hname, hxid, hb.id]
      rw [← hpe]
      exact Contact.of_eq_of_contactKey (hkeys _ hkey _ hb.hashed hsame)
    rw [← hid] at hc hxid
    refine ⟨m.addTo now c, false, ?_, ?_, ?_, h.addTo hkeys hc hx hxid hcontact now []⟩
    · rw [Desk.deposit_of_card? (hid ▸ hc), Message.addTo_id, hid]
    · rw [Message.addTo_id, Desk.linesUnder_of_card? hc]
      rfl
    · simp [hc]
  | none =>
    obtain ⟨lane, hlane⟩ : ∃ lane, route.lane = some lane := by
      cases hl : route.lane with
      | none => exact absurd hc (hb.lane hl)
      | some lane => exact ⟨lane, rfl⟩
    have hstranger : ∀ x ∈ r.filed, x.contact ≠ m.contact := by
      intro x hx hcontact
      obtain ⟨c, hc', -⟩ := h.belongs x hx
      rw [(h.id_of_contact hx hcontact hm).1, ← hb.id, hc] at hc'
      cases hc'
    refine ⟨m.addTo now (m.blankCard route.cardId lane now), true, ?_, ?_, ?_, ?_⟩
    · rw [Desk.deposit_of_vacant hc hlane, Message.addTo_id, Message.blankCard_id]
    · rw [Message.addTo_id, Message.blankCard_id, Desk.linesUnder_of_vacant hc]
      rfl
    · simp [hc]
    · have hsuits := Card.suits_blankCard m route.cardId lane now m.contact
      refine h.add (hsuits.belongsTo_addTo now) ?_ (fun x hx => ?_) (by simpa using hstranger)
      · exact ⟨m.platform, m.sender, rfl, List.mem_append_left _ hb.hashed, hb.id⟩
      · refine iff_of_false (fun hid => ?_) (hstranger x hx)
        obtain ⟨c, hc', -⟩ := h.belongs x hx
        rw [hid, Message.addTo_id, Message.blankCard_id, hc] at hc'
        cases hc'

-- ---------------------------------------------------------------------------
-- What was deposited since a start
-- ---------------------------------------------------------------------------

/-- What a register holds more than at a start: the messages deposited since then, each for one line
of the card it went to. -/
structure Since (start r : Register) (new : List Filed) : Prop where
  lanes : r.desk.lanes = start.desk.lanes
  filed : r.filed = start.filed ++ new
  lines : ∀ id, r.desk.linesUnder id =
    start.desk.linesUnder id ++ (new.filter fun x => x.cardId == id).map fun x => x.message.entry
  stays : ∀ id, start.desk.card? id ≠ none → r.desk.card? id ≠ none
  firsts : ∀ id, (new.map Filed.arrival).count ⟨id, true⟩ =
    if (start.desk.card? id).isNone && (r.desk.card? id).isSome then 1 else 0

variable {start : Register} {new : List Filed}

theorem since_refl (r : Register) : r.Since r [] where
  lanes := rfl
  filed := (List.append_nil _).symm
  lines id := (List.append_nil _).symm
  stays _ h := h
  firsts id := by cases r.desk.card? id <;> rfl

theorem Since.rehash (h : start.Since r new) (keys : List String) :
    start.Since { r with hashed := r.hashed ++ keys } new :=
  { h with }

theorem Since.add (h : start.Since r new) {c : Card} {isNew : Bool}
    (hlines : c.entries = r.desk.linesUnder c.id ++ [m.entry])
    (hnew : isNew = true ↔ r.desk.card? c.id = none) (keys : List String) :
    start.Since (r.add c m isNew keys) (new ++ [⟨m, ⟨c.id, isNew⟩⟩]) where
  lanes := h.lanes
  filed := by simp [Register.add, h.filed]
  lines id := by
    show (r.desk.withCard c).linesUnder id = _
    rw [Desk.linesUnder_withCard, List.filter_append, List.map_append]
    split
    next hid =>
      subst hid
      simp [hlines, h.lines, Filed.cardId]
    next hid => simp [h.lines, Filed.cardId, hid]
  stays id hs := by
    show (r.desk.withCard c).card? id ≠ none
    rw [Desk.card?_withCard]
    split
    · simp
    · exact h.stays id hs
  firsts id := by
    have hcard : (r.add c m isNew keys).desk.card? id =
        if c.id = id then some c else r.desk.card? id := r.desk.card?_withCard c id
    rw [List.map_append, List.count_append, h.firsts, hcard]
    by_cases hid : c.id = id
    · subst hid
      cases hc : r.desk.card? c.id with
      | none =>
        -- a card that was there at the start would be there still
        have hstart : start.desk.card? c.id = none := by
          cases hs : start.desk.card? c.id with
          | none => rfl
          | some c' => exact absurd hc (h.stays _ (by simp [hs]))
        simp [hstart, hnew.2 hc]
      | some c' =>
        have hold : isNew = false := by simpa [hc] using hnew
        simp [hold]
    · simp [hid]

end Register

-- ---------------------------------------------------------------------------
-- Steps in any order
-- ---------------------------------------------------------------------------

/-- How many steps a message has still to take. -/
def Transit.left : Transit → Nat
  | .waiting => 2
  | .routed _ => 1
  | .arrived _ | .refused _ => 0

namespace Traffic

/-- What holds of a message on its way: it is not refused, and its route is good. -/
structure Holds (r : Register) (x : Parcel) : Prop where
  numbered : x.message.Numbered
  accepted : ∀ e, x.transit ≠ .refused e
  bound : ∀ route, x.transit = .routed route → r.Bound x.message route

/-- What every step keeps; what has arrived is what was filed. -/
structure Carried (start : Register) (t : Traffic) : Prop where
  kept : t.register.Kept
  holds : ∀ x ∈ t.parcels, Holds t.register x
  since : ∃ new, start.Since t.register new ∧ new.Perm (t.parcels.filterMap Parcel.filed?)

variable {start r r' : Register} {t : Traffic} {x : Parcel} {keyword : String} {lane : Lane}

theorem Holds.mono (h : Holds r x)
    (hbound : ∀ m route, r.Bound m route → r'.Bound m route) : Holds r' x :=
  { h with bound := fun route hroute => hbound _ _ (h.bound route hroute) }

theorem carried_setOut (h : r.Kept) {ms : List Message} (hms : ∀ m ∈ ms, m.Numbered) :
    (setOut r ms).Carried r where
  kept := h
  holds x hx := by
    obtain ⟨m, hm, rfl⟩ := List.mem_map.1 hx
    refine ⟨hms m hm, ?_, ?_⟩
    · rintro e ⟨⟩
    · rintro route ⟨⟩
  since := by
    refine ⟨[], r.since_refl, ?_⟩
    have hnone : (setOut r ms).parcels.filterMap Parcel.filed? = [] := by
      refine List.filterMap_eq_nil_iff.2 fun x hx => ?_
      obtain ⟨m, hm, rfl⟩ := List.mem_map.1 hx
      rfl
    rw [hnone]

theorem step_of_getElem? {turn : Nat × Time.Instant} (h : t.parcels[turn.1]? = some x) :
    t.step keyword turn = ⟨(t.register.forward keyword x turn.2).1,
      t.parcels.set turn.1 (t.register.forward keyword x turn.2).2⟩ := by
  simp [step, h]

theorem step_of_none {turn : Nat × Time.Instant} (h : t.parcels[turn.1]? = none) :
    t.step keyword turn = t := by
  simp [step, h]

theorem Carried.step (h : t.Carried start) (hlane : start.desk.defaultLane keyword = .ok lane)
    (turn : Nat × Time.Instant) (hkeys : t.register.NoCollision) :
    (t.step keyword turn).Carried start := by
  cases hx : t.parcels[turn.1]? with
  | none =>
    rw [step_of_none hx]
    exact h
  | some x =>
    have hholds := h.holds x (List.mem_of_getElem? hx)
    obtain ⟨new, hsince, hperm⟩ := h.since
    rw [step_of_getElem? hx]
    unfold Register.forward
    cases ht : x.transit with
    | refused e => exact absurd ht (hholds.accepted e)
    | arrived a =>
      -- a message that has arrived takes no more steps
      have hself : t.parcels.set turn.1 x = t.parcels := by
        obtain ⟨hi, rfl⟩ := List.getElem?_eq_some_iff.1 hx
        exact List.set_getElem_self hi
      simp only [hself]
      exact h
    | waiting =>
      have hsame := Desk.defaultLane_congr hsince.lanes keyword
      obtain ⟨route, hroute, hbound⟩ := h.kept.bound hholds.numbered (hsame.trans hlane)
      simp only [hroute]
      refine ⟨h.kept.rehash _, forall_mem_set ?_ ?_, new, hsince.rehash _, ?_⟩
      · intro y hy
        exact (h.holds y hy).mono fun m route hb => hb.rehash _
      · exact ⟨hholds.numbered, by simp, by rintro route ⟨⟩; exact hbound⟩
      · rw [filterMap_set_of_eq hx (by simp [Parcel.filed?, ht])]
        exact hperm
    | routed route =>
      obtain ⟨c, isNew, hdeposit, hlines, hnew, hkept⟩ :=
        h.kept.deposit hkeys hholds.numbered (hholds.bound route ht) turn.2
      have hadd : t.register.add c x.message isNew [] =
          ⟨t.register.desk.withCard c, t.register.filed ++ [⟨x.message, ⟨c.id, isNew⟩⟩],
            t.register.hashed⟩ := by
        simp [Register.add]
      simp only [hdeposit, ← hadd]
      refine ⟨hkept, forall_mem_set ?_ ?_, _, hsince.add hlines hnew [], ?_⟩
      · intro y hy
        exact (h.holds y hy).mono fun m route hb => hb.add c x.message isNew []
      · exact ⟨hholds.numbered, by simp, by rintro route ⟨⟩⟩
      · have hx' : x.filed? = none := by simp [Parcel.filed?, ht]
        exact (hperm.append_right _).trans (perm_filterMap_set hx hx' rfl).symm

theorem hashed_step (keyword : String) (t : Traffic) (turn : Nat × Time.Instant) :
    ∀ key ∈ t.register.hashed, key ∈ (t.step keyword turn).register.hashed := by
  intro key hkey
  cases hx : t.parcels[turn.1]? with
  | none => rwa [step_of_none hx]
  | some x =>
    rw [step_of_getElem? hx]
    unfold Register.forward
    split
    · split
      · exact List.mem_append_left _ hkey
      · exact hkey
    · split <;> exact hkey
    · exact hkey
    · exact hkey

theorem hashed_run (keyword : String) (t : Traffic) (turns : List (Nat × Time.Instant)) :
    ∀ key ∈ t.register.hashed, key ∈ (t.run keyword turns).register.hashed := by
  induction turns generalizing t with
  | nil => exact fun _ hkey => hkey
  | cons turn turns ih => exact fun key hkey => ih _ key (hashed_step keyword t turn key hkey)

theorem Carried.run (h : t.Carried start) (hlane : start.desk.defaultLane keyword = .ok lane)
    {turns : List (Nat × Time.Instant)} (hkeys : (t.run keyword turns).register.NoCollision) :
    (t.run keyword turns).Carried start := by
  induction turns generalizing t with
  | nil => exact h
  | cons turn turns ih =>
    have hkeys' := hkeys.mono (hashed_run keyword t (turn :: turns))
    exact ih (h.step hlane turn hkeys') hkeys

-- ---------------------------------------------------------------------------
-- Enough steps
-- ---------------------------------------------------------------------------

theorem message_forward (keyword : String) (r : Register) (x : Parcel) (now : Time.Instant) :
    (r.forward keyword x now).2.message = x.message := by
  unfold Register.forward
  split <;> try split
  all_goals rfl

theorem left_forward (keyword : String) (r : Register) (x : Parcel) (now : Time.Instant) :
    (r.forward keyword x now).2.transit.left ≤ x.transit.left - 1 := by
  unfold Register.forward
  split <;> rename_i ht <;> rw [ht] <;> try split
  all_goals simp [Transit.left, *]

theorem messages_run (keyword : String) (t : Traffic) (turns : List (Nat × Time.Instant)) :
    (t.run keyword turns).parcels.map Parcel.message = t.parcels.map Parcel.message := by
  induction turns generalizing t with
  | nil => rfl
  | cons turn turns ih =>
    refine (ih (t.step keyword turn)).trans ?_
    cases hx : t.parcels[turn.1]? with
    | none => rw [step_of_none hx]
    | some x =>
      rw [step_of_getElem? hx]
      exact map_set_of_eq hx (message_forward keyword t.register x turn.2)

/-- Every turn of a message is a step nearer to its end. -/
theorem left_run (keyword : String) (t : Traffic) (turns : List (Nat × Time.Instant)) {i : Nat}
    {x : Parcel} (h : t.parcels[i]? = some x) :
    ∃ y, (t.run keyword turns).parcels[i]? = some y ∧
      y.transit.left ≤ x.transit.left - (turns.map Prod.fst).count i := by
  induction turns generalizing t x with
  | nil => exact ⟨x, h, by simp⟩
  | cons turn turns ih =>
    rw [List.map_cons, List.count_cons]
    have hlength := (List.getElem?_eq_some_iff.1 h).1
    by_cases hi : turn.1 = i
    · subst hi
      have hx : (t.step keyword turn).parcels[turn.1]? =
          some (t.register.forward keyword x turn.2).2 := by
        rw [step_of_getElem? h]
        simp [hlength]
      obtain ⟨y, hy, hleft⟩ := ih _ hx
      have := left_forward keyword t.register x turn.2
      exact ⟨y, hy, by simp; omega⟩
    · have hx : (t.step keyword turn).parcels[i]? = some x := by
        cases hz : t.parcels[turn.1]? with
        | none => rwa [step_of_none hz]
        | some z =>
          rw [step_of_getElem? hz]
          simp [List.getElem?_set_ne hi, h]
      obtain ⟨y, hy, hleft⟩ := ih _ hx
      exact ⟨y, hy, by simpa [hi] using hleft⟩

-- ---------------------------------------------------------------------------
-- All arrive
-- ---------------------------------------------------------------------------

theorem exists_arrivals {xs : List Parcel} (h : ∀ x ∈ xs, ∃ a, x.transit = .arrived a) :
    ∃ arrivals : List Arrival, arrivals.length = xs.length ∧
      xs = List.zipWith (fun m a => ⟨m, .arrived a⟩) (xs.map Parcel.message) arrivals := by
  induction xs with
  | nil => exact ⟨[], rfl, rfl⟩
  | cons x xs ih =>
    obtain ⟨a, ha⟩ := h x List.mem_cons_self
    obtain ⟨arrivals, hlength, hxs⟩ := ih fun y hy => h y (List.mem_cons_of_mem x hy)
    refine ⟨a :: arrivals, by simp [hlength], ?_⟩
    rw [List.map_cons, List.zipWith_cons_cons, ← hxs, ← ha]

theorem filterMap_filed? (ms : List Message) (arrivals : List Arrival) :
    (List.zipWith (fun m a => Parcel.mk m (.arrived a)) ms arrivals).filterMap Parcel.filed? =
      List.zipWith Filed.mk ms arrivals := by
  induction ms generalizing arrivals with
  | nil => rfl
  | cons m ms ih =>
    cases arrivals with
    | nil => rfl
    | cons a arrivals => simp [Parcel.filed?, ih]

theorem map_arrival_zipWith {ms : List Message} {arrivals : List Arrival}
    (h : arrivals.length = ms.length) :
    (List.zipWith Filed.mk ms arrivals).map Filed.arrival = arrivals := by
  induction ms generalizing arrivals with
  | nil =>
    obtain rfl := List.length_eq_zero_iff.1 h
    rfl
  | cons m ms ih =>
    cases arrivals with
    | nil => cases h
    | cons a arrivals => simp [ih (by simpa using h)]

/-- Turns in which each of `n` messages takes its two steps, in any order. -/
def Complete (n : Nat) (turns : List (Nat × Time.Instant)) : Prop :=
  (turns.map Prod.fst).Perm (List.range n ++ List.range n)

theorem Carried.arrive {ms : List Message} (h : ((setOut start ms).run keyword turns).Carried start)
    (hturns : Complete ms.length turns) :
    ∃ arrivals, arrivals.length = ms.length ∧ ((setOut start ms).run keyword turns).parcels =
      List.zipWith (fun m a => ⟨m, .arrived a⟩) ms arrivals := by
  have hmessages : ((setOut start ms).run keyword turns).parcels.map Parcel.message = ms := by
    rw [messages_run]
    simp [setOut, Function.comp_def]
  have hlength := congrArg List.length hmessages
  rw [List.length_map] at hlength
  have hall : ∀ x ∈ ((setOut start ms).run keyword turns).parcels, ∃ a, x.transit = .arrived a := by
    intro x hx
    obtain ⟨i, hi, hxi⟩ := List.getElem_of_mem hx
    have hstart : (setOut start ms).parcels[i]? = some ⟨ms[i], .waiting⟩ := by
      simp [setOut]
    obtain ⟨y, hy, hleft⟩ := left_run keyword (setOut start ms) turns hstart
    obtain rfl : x = y := by
      rw [List.getElem?_eq_getElem hi, hxi] at hy
      exact Option.some.inj hy
    have htwice : (turns.map Prod.fst).count i = 2 := by
      have hone : (List.range ms.length).count i = 1 :=
        List.count_eq_one_of_mem List.nodup_range (List.mem_range.2 (hlength ▸ hi))
      rw [hturns.count_eq, List.count_append, hone]
    rw [htwice] at hleft
    cases ht : x.transit with
    | arrived a => exact ⟨a, rfl⟩
    | refused e => exact absurd ht ((h.holds x hx).accepted e)
    | waiting => simp [ht, Transit.left] at hleft
    | routed route => simp [ht, Transit.left] at hleft
  obtain ⟨arrivals, harrivals, hparcels⟩ := exists_arrivals hall
  rw [hmessages] at hparcels
  exact ⟨arrivals, harrivals.trans hlength, hparcels⟩

/-- What messages that came at the same time leave. -/
structure Settles (start : Register) (ms : List Message) (t : Traffic) (arrivals : List Arrival) :
    Prop where
  /-- Each of them arrived. -/
  arrived : arrivals.length = ms.length ∧
    t.parcels = List.zipWith (fun m a => ⟨m, .arrived a⟩) ms arrivals
  /-- In some order they were deposited once each, each for one line on the card it went to. -/
  once : ∃ new, new.Perm (List.zipWith Filed.mk ms arrivals) ∧
    t.register.filed = start.filed ++ new ∧
    ∀ id, t.register.desk.linesUnder id = start.desk.linesUnder id ++
      (new.filter fun x => x.cardId == id).map fun x => x.message.entry
  /-- With all that was received before, those of one sender are on one card. -/
  together : ∀ x ∈ t.register.filed, ∀ y ∈ t.register.filed,
    x.message.SameSender y.message → x.cardId = y.cardId
  apart : ∀ x ∈ t.register.filed, ∀ y ∈ t.register.filed,
    x.cardId = y.cardId → x.contact = y.contact
  /-- One of them is the first on each card that is new, and none on the others. -/
  firsts : ∀ id, arrivals.count ⟨id, true⟩ =
    if (start.desk.card? id).isNone && (t.register.desk.card? id).isSome then 1 else 0

/-- Messages that come at the same time are all deposited, on the cards of their contacts, in
whatever order they take their steps. -/
theorem settles (keyword : String) (ops : List (Operation × Time.Instant)) (ms : List Message)
    (turns : List (Nat × Time.Instant)) (hms : ∀ m ∈ ms, m.Numbered)
    (hlane : ∃ lane, (Register.run keyword ops).desk.defaultLane keyword = .ok lane)
    (hturns : Complete ms.length turns)
    (hkeys : ((setOut (Register.run keyword ops) ms).run keyword turns).register.NoCollision) :
    ∃ arrivals, Settles (Register.run keyword ops) ms
      ((setOut (Register.run keyword ops) ms).run keyword turns) arrivals := by
  obtain ⟨lane, hlane⟩ := hlane
  have hkept : (Register.run keyword ops).Kept :=
    Register.kept_empty.foldl
      (hkeys.mono (hashed_run keyword (setOut (Register.run keyword ops) ms) turns))
  have hcarried := (carried_setOut hkept hms).run hlane hkeys
  obtain ⟨arrivals, hlength, hparcels⟩ := hcarried.arrive hturns
  obtain ⟨new, hsince, hperm⟩ := hcarried.since
  rw [hparcels, filterMap_filed?] at hperm
  refine ⟨arrivals, ⟨hlength, hparcels⟩, ⟨new, hperm, hsince.filed, hsince.lines⟩, ?_, ?_, ?_⟩
  · intro x hx y hy hsame
    exact hcarried.kept.together x hx y hy (Message.contact_eq_of_sameSender hsame)
  · intro x hx y hy
    exact hcarried.kept.contact_eq hkeys hx hy
  · intro id
    rw [← hsince.firsts id, (hperm.map Filed.arrival).count_eq, map_arrival_zipWith hlength]

-- ---------------------------------------------------------------------------
-- A race
-- ---------------------------------------------------------------------------

def lobbyOpened : List (Operation × Time.Instant) :=
  [(.putLane ⟨"inbox", "Bandeja", some 0⟩, ⟨0, 0⟩)]

/-- First messages from one number, written in two ways on two platforms, and a stranger. -/
def firstMessages : List Message :=
  [.ofText .whatsApp "+52 155 0001" "Hola", .ofText .telegram "42" "Buenas",
    .ofText .sms "521550001" "Sigo aquí"]

/-- All look for their cards before any is there. -/
def race : List (Nat × Time.Instant) :=
  [(0, ⟨1, 0⟩), (2, ⟨2, 0⟩), (1, ⟨3, 0⟩), (2, ⟨4, 0⟩), (0, ⟨5, 0⟩), (1, ⟨6, 0⟩)]

theorem settles_race :
    Complete firstMessages.length race ∧
      ∃ arrivals, Settles (Register.run "inbox" lobbyOpened) firstMessages
          ((setOut (Register.run "inbox" lobbyOpened) firstMessages).run "inbox" race) arrivals ∧
        arrivals.map Arrival.isNew = [false, true, true] := by
  have hms : ∀ m ∈ firstMessages, m.Numbered := by
    unfold Message.Numbered
    decide +kernel
  have hlane : ∃ lane, (Register.run "inbox" lobbyOpened).desk.defaultLane "inbox" = .ok lane := by
    have hok : ((Register.run "inbox" lobbyOpened).desk.defaultLane "inbox").isOk = true := by
      decide +kernel
    cases hd : (Register.run "inbox" lobbyOpened).desk.defaultLane "inbox" with
    | ok lane => exact ⟨lane, rfl⟩
    | error e => rw [hd] at hok; cases hok
  have hturns : Complete firstMessages.length race := by
    unfold Complete
    decide
  have hkeys : ((setOut (Register.run "inbox" lobbyOpened) firstMessages).run "inbox"
      race).register.NoCollision := by
    unfold Register.NoCollision
    decide +kernel
  obtain ⟨arrivals, hsettles⟩ :=
    settles "inbox" lobbyOpened firstMessages race hms hlane hturns hkeys
  refine ⟨hturns, arrivals, hsettles, ?_⟩
  have hlength := hsettles.arrived.1
  rw [← map_arrival_zipWith hlength, ← filterMap_filed?, ← hsettles.arrived.2]
  decide +kernel

end Traffic

end Switchboard
