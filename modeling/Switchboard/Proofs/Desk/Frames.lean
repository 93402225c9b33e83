import Switchboard.Proofs.Desk.Cards
import Switchboard.Proofs.Text.Trimming
import Switchboard.World

/-!
# What an operation leaves alone

An operation on the desk alters one card, and of this card only what the operation is for and the
time of the last change; the other cards and all lanes are as they were (`Desk.Alters`). It is
refused exactly if there is no such card, or no lane for a new one, and then nothing at all happens
(`Desk.operations_keep_the_rest`).
-/

namespace Switchboard

variable {α : Type} {id : String} {now : Time.Instant}

/-- What holds of the reason if an operation is refused, and of its result otherwise. -/
def Ends (refused : DeskError → Prop) (done : α → Prop) : Except DeskError α → Prop
  | .error e => refused e
  | .ok x => done x

section

variable {β : Type} {refused refused' : DeskError → Prop} {done done' : α → Prop}
  {result : Except DeskError α}

theorem Ends.imp (h : Ends refused done result) (hrefused : ∀ e, refused e → refused' e)
    (hdone : ∀ x, done x → done' x) : Ends refused' done' result := by
  cases result with
  | error e => exact hrefused e h
  | ok x => exact hdone x h

theorem ends_map {f : α → β} {done : β → Prop} :
    Ends refused done (result.map f) ↔ Ends refused (fun x => done (f x)) result := by
  cases result <;> rfl

end

/-- The card is as before, but for what a message brings. The contact's first number stays. -/
def Message.Heard (m : Message) (c c' : Card) : Prop :=
  ∃ t, c' = { c with
    entries := c.entries ++ [m.entry]
    lastMessage := m.text
    lastPlatform := some m.platform
    lastKind := some m.kind
    addresses := fun p => if p = m.platform then some m.sender else c.addresses p
    details := fun p => if p = m.platform ∧ m.details.isSome then m.details else c.details p
    contactNumber :=
      if m.platform.usesPhone ∧ c.contactNumber = none then some m.sender else c.contactNumber
    phone := if m.platform.usesPhone ∧ c.phone = none then some (phoneDigits m.sender) else c.phone
    updatedAt := t }

namespace Desk

/-- Nothing differs but what stands under the id. -/
structure OnlyAt (id : String) (d d' : Desk) : Prop where
  lanes : d'.lanes = d.lanes
  others : ∀ other, other ≠ id → d'.card? other = d.card? other

/-- The card with the id is altered, and nothing else. -/
structure Alters (id : String) (alter : Card → Card → Prop) (d d' : Desk) : Prop
    extends OnlyAt id d d' where
  card : ∃ c c', d.card? id = some c ∧ d'.card? id = some c' ∧ alter c c'

/-- There is no card with the id, and this is said. -/
def Misses (d : Desk) (id : String) (e : DeskError) : Prop :=
  d.card? id = none ∧ e = .cardNotFound id

/-- A message is on the card it went to, and the card is new only if there was none. -/
def Hears (d : Desk) (m : Message) (result : Arrival × Desk) : Prop :=
  if result.1.isNew then
    d.card? result.1.cardId = none ∧ d.OnlyAt result.1.cardId result.2 ∧
      ∃ c, result.2.card? result.1.cardId = some c ∧ c.entries = [m.entry]
  else d.Alters result.1.cardId m.Heard result.2

/-- What each operation alters on a desk, and when it is refused. -/
structure KeepsTheRest (d : Desk) (keyword : String) (now : Time.Instant) : Prop where
  setPosition : ∀ id p, Ends (d.Misses id)
    (d.Alters id fun c c' => ∃ t, c' = { c with position := some p, updatedAt := t })
    (d.setPosition id p now)
  learn : ∀ id name value, Ends (d.Misses id)
    (d.Alters id fun c c' => ∃ t fields, c' = { c with fields := fields, updatedAt := t } ∧
      ∀ other, fields.value? other = if other = name then some value else c.fields.value? other)
    (d.learn id name value now)
  rename : ∀ id name, Text.isBlank name = false → Ends (d.Misses id)
    (d.Alters id fun c c' => ∃ t, c' = { c with contactName := Text.trim name, updatedAt := t })
    (d.rename id name now)
  renameBlank : ∀ id name, Text.isBlank name = true → d.rename id name now = .ok d
  markRead : ∀ p sender c, d.find? p sender = some c →
    ∃ d', d.markRead p sender now = .ok (some c.id, d') ∧
      d.Alters c.id (fun c c' => ∃ t, c' = { c with lastReadAt := some now, updatedAt := t }) d'
  markReadUnknown : ∀ p sender, d.find? p sender = none → d.markRead p sender now = .ok (none, d)
  appendOutbound : ∀ id author text, Ends (d.Misses id)
    (fun (c, d') => d'.card? id = some c ∧ d.Alters id (fun c c' => ∃ t, c' = { c with
      entries := c.entries ++ [outboundEntry c author text now]
      lastMessage := text
      updatedAt := t }) d')
    (d.appendOutbound id author text now)
  receive : ∀ m, Ends
    (fun e => d.find? m.platform m.sender = none ∧ d.defaultLane keyword = .error e)
    (d.Hears m) (d.receive keyword m now)
  /-- The second step of a message, which may find another desk than the first. -/
  deposit : ∀ r m, Ends (fun e => r.lane = none ∧ d.Misses r.cardId e)
    (fun x => x.1.cardId = r.cardId ∧ d.Hears m x) (d.deposit r m now)
  /-- Any change of a card, which may fail or make the card of another id. -/
  transact : ∀ id change, Ends
    (fun e => change (d.card? id) = .error e ∨ ∃ c, change (d.card? id) = .ok c ∧ c.id ≠ id ∧
      e = .store ("transaction on " ++ id ++ " produced card " ++ c.id))
    (fun (c, d') => change (d.card? id) = .ok c ∧ d'.card? id = some c ∧ d.OnlyAt id d')
    (d.transact id change)

end Desk

theorem or_some_eq_ite (b : Bool) (o : Option String) (s : String) :
    (if b then o.or (some s) else o) = if b ∧ o = none then some s else o := by
  cases b <;> cases o <;> simp

theorem Message.heard_addTo (m : Message) (now : Time.Instant) (c : Card) :
    m.Heard c (m.addTo now c) := by
  refine ⟨(m.addTo now c).updatedAt, ?_⟩
  rw [← or_some_eq_ite m.platform.usesPhone c.contactNumber, ← or_some_eq_ite _ c.phone,
    ← funext (m.details_addTo now c)]
  rfl

namespace Desk

variable {d d' : Desk} {c c' : Card} {alter : Card → Card → Prop}

theorem onlyAt_withCard (d : Desk) (hid : c.id = id) : d.OnlyAt id (d.withCard c) where
  lanes := rfl
  others other hne := by rw [card?_withCard, if_neg (hid ▸ hne.symm)]

theorem alters_withCard (hc : d.card? id = some c) (hid : c'.id = c.id) (h : alter c c') :
    d.Alters id alter (d.withCard c') := by
  have hid' : c'.id = id := hid.trans (id_of_card? hc)
  exact { onlyAt_withCard d hid' with
    card := ⟨c, c', hc, by rw [card?_withCard, if_pos hid'], h⟩ }

theorem transact_ends (d : Desk) (id : String) (change : Option Card → Except DeskError Card) :
    Ends
      (fun e => change (d.card? id) = .error e ∨ ∃ c, change (d.card? id) = .ok c ∧ c.id ≠ id ∧
        e = .store ("transaction on " ++ id ++ " produced card " ++ c.id))
      (fun (c, d') => change (d.card? id) = .ok c ∧ d'.card? id = some c ∧ d.OnlyAt id d')
      (d.transact id change) := by
  cases hchange : change (d.card? id) with
  | error e => simp [transact, hchange, Ends]
  | ok c =>
    by_cases hid : c.id = id
    · rw [transact_eq_ok hchange hid]
      exact ⟨rfl, by rw [card?_withCard, if_pos hid], onlyAt_withCard d hid⟩
    · simp [transact, hchange, hid, Ends]

/-- A change that keeps the id alters the card with it, and is refused if there is none. -/
theorem change_ends (d : Desk) (id : String) (now : Time.Instant) {f : Card → Card}
    (hid : ∀ c, (f c).id = c.id) (h : ∀ c, alter c ((f c).touch now)) :
    Ends (d.Misses id) (fun (c, d') => d'.card? id = some c ∧ d.Alters id alter d')
      (d.change id now f) := by
  cases hc : d.card? id with
  | none =>
    rw [change_of_none hc]
    exact ⟨hc, rfl⟩
  | some c =>
    rw [change_of_card? hc (hid c)]
    have htouch : ((f c).touch now).id = c.id := hid c
    have halters := alters_withCard hc htouch (h c)
    obtain rfl := id_of_card? hc
    exact ⟨by rw [card?_withCard, if_pos htouch], halters⟩

theorem change_snd_ends (d : Desk) (id : String) (now : Time.Instant) {f : Card → Card}
    (hid : ∀ c, (f c).id = c.id) (h : ∀ c, alter c ((f c).touch now)) :
    Ends (d.Misses id) (d.Alters id alter) ((d.change id now f).map Prod.snd) :=
  ends_map.2 ((change_ends d id now hid h).imp (fun _ h => h) fun _ h => h.2)

theorem deposit_ends (d : Desk) (r : Route) (m : Message) (now : Time.Instant) :
    Ends (fun e => r.lane = none ∧ d.Misses r.cardId e)
      (fun x => x.1.cardId = r.cardId ∧ d.Hears m x) (d.deposit r m now) := by
  cases hc : d.card? r.cardId with
  | some c =>
    rw [deposit_of_card? hc]
    exact ⟨rfl, alters_withCard hc rfl (m.heard_addTo now c)⟩
  | none =>
    cases hlane : r.lane with
    | none => simp [deposit, transact, hc, hlane, Ends, Misses, Except.map]
    | some lane =>
      rw [deposit_of_vacant hc hlane]
      refine ⟨rfl, hc, onlyAt_withCard d rfl, _, card?_withCard_self .., rfl⟩

theorem receive_ends (d : Desk) (keyword : String) (m : Message) (now : Time.Instant) :
    Ends (fun e => d.find? m.platform m.sender = none ∧ d.defaultLane keyword = .error e)
      (d.Hears m) (d.receive keyword m now) := by
  cases hfind : d.find? m.platform m.sender with
  | some c =>
    rw [receive_of_found hfind]
    exact alters_withCard (find?_some hfind).1 rfl (m.heard_addTo now c)
  | none =>
    cases hlane : d.defaultLane keyword with
    | error e =>
      rw [receive_of_no_lane hfind hlane]
      exact ⟨rfl, rfl⟩
    | ok lane =>
      rw [receive_of_unknown hfind hlane]
      exact (deposit_ends d _ m now).imp (fun _ h => nomatch h.1) fun _ h => h.2

theorem keepsTheRest (d : Desk) (keyword : String) (now : Time.Instant) :
    d.KeepsTheRest keyword now where
  setPosition id p := change_snd_ends d id now (fun _ => rfl) fun c => ⟨_, rfl⟩
  learn id name value := change_snd_ends d id now (fun _ => rfl) fun c =>
    ⟨_, _, rfl, fun other => by simp [Dictionary.value?_set, eq_comm]⟩
  rename id name hname := by
    unfold Desk.rename
    simp only [Text.isEmpty_trim, hname]
    exact change_snd_ends d id now (fun _ => rfl) fun c => ⟨_, rfl⟩
  renameBlank id name hname := by
    unfold Desk.rename
    simp only [Text.isEmpty_trim, hname, if_true]
  markRead p sender c hfind := by
    have hc : d.card? c.id = some c := (find?_some hfind).1
    refine ⟨d.withCard (Card.touch { c with lastReadAt := some now } now), ?_,
      alters_withCard hc rfl ⟨_, rfl⟩⟩
    unfold Desk.markRead
    simp only [hfind]
    rw [change_of_card? hc rfl]
    rfl
  markReadUnknown p sender hfind := by simp [Desk.markRead, hfind]
  appendOutbound id author text := change_ends d id now (fun _ => rfl) fun c => ⟨_, rfl⟩
  receive m := receive_ends d keyword m now
  deposit r m := deposit_ends d r m now
  transact id change := transact_ends d id change

/-- Whatever is on the desk, each operation alters only what it is for. If an operation of the
service is refused, nothing has happened but that the clock was read; if it is not, the desk alone
is another. -/
theorem operations_keep_the_rest (d : Desk) (keyword : String) (now : Time.Instant) :
    d.KeepsTheRest keyword now ∧
      ∀ (w : World) (clock : Clock) (α : Type)
        (act : Desk → Time.Instant → Except DeskError (α × Desk)),
        Ends (fun _ => (w.onDesk clock act).2 = w.tick)
          (fun x => ∃ d', act w.desk (clock w.readings) = .ok (x, d') ∧
            (w.onDesk clock act).2 = { w.tick with desk := d' })
          (w.onDesk clock act).1 := by
  refine ⟨keepsTheRest d keyword now, fun w clock α act => ?_⟩
  unfold World.onDesk
  cases hact : act w.desk (clock w.readings) with
  | error e => rfl
  | ok x => exact ⟨x.2, rfl, rfl⟩

end Desk

end Switchboard
