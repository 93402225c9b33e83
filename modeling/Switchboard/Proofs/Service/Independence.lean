import Switchboard.Proofs.Service.Filings
import Switchboard.Proofs.Service.Replies

/-!
# Independent contacts

What is done about a message depends on the card of its contact alone (`World.ingest_alike`), and
changes no other card. Messages of two contacts go to two cards, unless their keys have one id. So
they may come in either order: the cards, the reports and the calls are the same
(`contacts_independent`).
-/

namespace Switchboard

open Service

/-- A channel whose answer to a call does not depend on the calls made before. -/
def Channel.Forgetful (channel : Channel) : Prop :=
  ∀ earlier call, channel earlier call = channel [] call

namespace World

/-- Two worlds that agree on a card and on what a turn on it goes by, and have made the same calls
since two earlier ones. -/
structure Alike (id : String) (w₀ v₀ w v : World) : Prop where
  card : v.desk.card? id = w.desk.card? id
  roster : v.roster = w.roster
  readings : v.readings = w.readings
  attempts : ∃ made, w.attempts = w₀.attempts ++ made ∧ v.attempts = v₀.attempts ++ made

variable {w₀ v₀ w v w' v' : World} {stage : Stage} {t : Turn} {c : Card} {id : String}

-- ---------------------------------------------------------------------------
-- Turns
-- ---------------------------------------------------------------------------

theorem act_alike (h : Alike t.card.id w₀ v₀ w v) (hc : w.desk.card? t.card.id = some c)
    (hchannel : stage.channel.Forgetful) (a : Action) :
    (v.act stage t a).1 = (w.act stage t a).1 ∧
      Alike t.card.id w₀ v₀ (w.act stage t a).2 (v.act stage t a).2 := by
  have hcv : v.desk.card? t.card.id = some c := h.card.trans hc
  have hcard : (v.act stage t a).2.desk.card? t.card.id =
      (w.act stage t a).2.desk.card? t.card.id := by
    rw [card?_act hcv, card?_act hc, h.readings]
  have hattempts : ∃ made, (w.act stage t a).2.attempts = w₀.attempts ++ made ∧
      (v.act stage t a).2.attempts = v₀.attempts ++ made := by
    obtain ⟨made, hw, hv⟩ := h.attempts
    rw [attempts_act, attempts_act, hw, hv]
    simp only [hchannel (w.callsOn _), hchannel (v.callsOn _), List.append_assoc]
    exact ⟨_, rfl, rfl⟩
  have hrest : (v.act stage t a).1 = (w.act stage t a).1 ∧
      (v.act stage t a).2.readings = (w.act stage t a).2.readings := by
    cases hwrites : a.writes with
    | true =>
      rw [act_of_writes hc hwrites, act_of_writes hcv hwrites]
      exact ⟨rfl, congrArg (· + 1) h.readings⟩
    | false =>
      cases a with
      | send call =>
        simp only [act, attempt, hchannel (w.callsOn _), hchannel (v.callsOn _)]
        cases stage.channel [] call <;> exact ⟨rfl, h.readings⟩
      | showRead id => exact ⟨rfl, h.readings⟩
      | pause span => exact ⟨rfl, h.readings⟩
      | countStep kind => exact ⟨rfl, h.readings⟩
      | _ => cases hwrites
  refine ⟨hrest.1, hcard, ?_, hrest.2, hattempts⟩
  rw [(steady_act v stage t a).roster, (steady_act w stage t a).roster, h.roster]

theorem actAll_alike (h : Alike t.card.id w₀ v₀ w v) (hc : w.desk.card? t.card.id = some c)
    (hchannel : stage.channel.Forgetful) (as : List Action) :
    (v.actAll stage t as).1 = (w.actAll stage t as).1 ∧
      Alike t.card.id w₀ v₀ (w.actAll stage t as).2 (v.actAll stage t as).2 := by
  induction as generalizing w v c with
  | nil => exact ⟨rfl, h⟩
  | cons a as ih =>
    obtain ⟨hresult, hact⟩ := act_alike h hc hchannel a
    cases ha : (w.act stage t a).1 with
    | ok _ =>
      rw [actAll_cons_ok ha, actAll_cons_ok (hresult.trans ha)]
      exact ih hact (card?_act hc)
    | error e =>
      rw [actAll_cons_error ha, actAll_cons_error (hresult.trans ha)]
      exact ⟨rfl, hact⟩

theorem Alike.count (h : Alike id w₀ v₀ w v) (x y : Count) :
    Alike id w₀ v₀ (w.count x) (v.count y) :=
  ⟨h.card, h.roster, h.readings, h.attempts⟩

theorem Alike.tick (h : Alike id w₀ v₀ w v) : Alike id w₀ v₀ w.tick v.tick :=
  ⟨h.card, h.roster, congrArg (· + 1) h.readings, h.attempts⟩

theorem runTurn_alike (h : Alike t.card.id w₀ v₀ w v) (hc : w.desk.card? t.card.id = some c)
    (hchannel : stage.channel.Forgetful) (rules : TurnRules) (introductions : List Introduction) :
    (v.runTurn stage rules introductions t).1 = (w.runTurn stage rules introductions t).1 ∧
      Alike t.card.id w₀ v₀ (w.runTurn stage rules introductions t).2
        (v.runTurn stage rules introductions t).2 := by
  obtain ⟨hresult, hacts⟩ := actAll_alike h.tick (c := c) hc hchannel
    (t.plan rules introductions (stage.clock w.readings)).actions
  unfold runTurn
  rw [h.readings]
  dsimp only
  generalize t.plan rules introductions (stage.clock w.readings) = plan at hresult hacts ⊢
  cases hw : w.tick.actAll stage t plan.actions with
  | mk result w' =>
    cases hv : v.tick.actAll stage t plan.actions with
    | mk result' v' =>
      rw [hw, hv] at hresult hacts
      obtain rfl : result' = result := hresult
      cases result' with
      | ok _ => exact ⟨rfl, hacts.count ..⟩
      | error e => exact ⟨rfl, hacts.count ..⟩

-- ---------------------------------------------------------------------------
-- Messages
-- ---------------------------------------------------------------------------

variable {s : Setup} {m : Message} {a : Arrival}

theorem answer_alike (h : Alike a.cardId w₀ v₀ w v)
    (hchannels : ∀ p channel, s.channels p = some channel → channel.Forgetful) :
    (v.answer s m a).1 = (w.answer s m a).1 ∧
      Alike a.cardId w₀ v₀ (w.answer s m a).2 (v.answer s m a).2 := by
  unfold answer
  rw [h.roster, h.card]
  split
  next b channel c hb hchannel hc =>
    have hturn : v.turnFor s m a b c = w.turnFor s m a b c := by
      unfold turnFor
      rw [h.readings]
    have hid : (w.turnFor s m a b c).card.id = a.cardId := Desk.id_of_card? hc
    have hstart : Alike (w.turnFor s m a b c).card.id w₀ v₀ w.tick v.tick := hid ▸ h.tick
    have hcard : w.tick.desk.card? (w.turnFor s m a b c).card.id = some c := by
      rw [hid]
      exact hc
    have hforgetful : (Stage.mk channel m.platform s.clock).channel.Forgetful :=
      hchannels _ _ hchannel
    obtain ⟨hresult, hafter⟩ := runTurn_alike hstart hcard hforgetful s.rules s.introductions
    rw [hid] at hafter
    rw [hturn]
    dsimp only
    cases hw : w.tick.runTurn ⟨channel, m.platform, s.clock⟩ s.rules s.introductions
        (w.turnFor s m a b c) with
    | mk result w' =>
      cases hv : v.tick.runTurn ⟨channel, m.platform, s.clock⟩ s.rules s.introductions
          (w.turnFor s m a b c) with
      | mk result' v' =>
        rw [hw, hv] at hresult hafter
        obtain rfl : result' = result := hresult
        cases result' with
        | ok outcome => exact ⟨rfl, hafter⟩
        | error e =>
          cases e with
          | delivery e => exact ⟨rfl, hafter.count ..⟩
          | desk e => exact ⟨rfl, hafter⟩
  next => exact ⟨rfl, h⟩

/-- A message with a sender that lands is then answered, and taken in. -/
theorem ingest_of_receive {d : Desk} (hnamed : Text.isBlank m.sender = false)
    (h : w.desk.receive s.laneKeyword m (s.clock w.readings) = .ok (a, d)) :
    ∃ landed : World, landed.desk = d ∧ landed.roster = w.roster ∧
      landed.readings = w.readings + 1 ∧ landed.attempts = w.attempts ∧
      w.ingest s m = (.ok ⟨a.cardId, a.isNew,
        (if m.kind = .text then landed.answer s m a else (none, landed)).1⟩,
        (if m.kind = .text then landed.answer s m a else (none, landed)).2) := by
  have hreceive : (w.count (.ingressed m.platform)).desk.receive s.laneKeyword m
      (s.clock (w.count (.ingressed m.platform)).readings) = .ok (a, d) := h
  obtain ⟨landed, hlanded, hdesk, hroster, hreadings, hattempts⟩ : ∃ landed : World,
      (w.count (.ingressed m.platform)).receive s.clock s.laneKeyword m = (.ok a, landed) ∧
        landed.desk = d ∧ landed.roster = w.roster ∧ landed.readings = w.readings + 1 ∧
        landed.attempts = w.attempts := by
    simp only [receive, onDesk, hreceive]
    refine ⟨_, rfl, ?_⟩
    split <;> exact ⟨rfl, rfl, rfl, rfl⟩
  refine ⟨landed, hdesk, hroster, hreadings, hattempts, ?_⟩
  simp [ingest, hnamed, hlanded]

end World

-- ---------------------------------------------------------------------------
-- The desk
-- ---------------------------------------------------------------------------

/-- Where a message lands depends on who is found, on the lanes and on the card it goes to. -/
theorem Desk.receive_alike {d d' e : Desk} {keyword : String} {m : Message} {a : Arrival}
    {now : Time.Instant} (hfind : e.find? m.platform m.sender = d.find? m.platform m.sender)
    (hlanes : e.lanes = d.lanes) (h : d.receive keyword m now = .ok (a, d'))
    (hcard : e.card? a.cardId = d.card? a.cardId) :
    ∃ c, c.id = a.cardId ∧ d' = d.withCard c ∧ e.receive keyword m now = .ok (a, e.withCard c) := by
  cases hf : d.find? m.platform m.sender with
  | some c =>
    rw [receive_of_found hf] at h
    cases h
    exact ⟨m.addTo now c, rfl, rfl, receive_of_found (hfind.trans hf)⟩
  | none =>
    cases hl : d.defaultLane keyword with
    | error f =>
      rw [receive_of_no_lane hf hl] at h
      cases h
    | ok lane =>
      have hl' : e.defaultLane keyword = .ok lane := (defaultLane_congr hlanes keyword).trans hl
      rw [receive_of_unknown hf hl] at h
      rw [receive_of_unknown (hfind.trans hf) hl']
      -- the id need not be computed
      generalize contactCardId m.platform m.sender = id at h ⊢
      cases hc : d.card? id with
      | some c =>
        rw [deposit_of_card? hc] at h
        cases h
        have hid : (m.addTo now c).id = id := (m.addTo_id now c).trans (id_of_card? hc)
        exact ⟨m.addTo now c, hid, rfl, deposit_of_card? (hcard.trans hc)⟩
      | none =>
        rw [deposit_of_vacant hc rfl] at h
        cases h
        exact ⟨_, rfl, rfl, deposit_of_vacant (hcard.trans hc) rfl⟩

namespace World

variable {w v : World} {s : Setup} {m : Message} {a : Arrival} {d : Desk}

/-- What is done about a message depends on who is found, on the card that it goes to, and on what
belongs to no contact. -/
theorem ingest_alike (hnamed : Text.isBlank m.sender = false)
    (hchannels : ∀ p channel, s.channels p = some channel → channel.Forgetful)
    (hreceive : w.desk.receive s.laneKeyword m (s.clock w.readings) = .ok (a, d))
    (hfind : v.desk.find? m.platform m.sender = w.desk.find? m.platform m.sender)
    (hlanes : v.desk.lanes = w.desk.lanes) (h : Alike a.cardId w v w v) :
    ∃ report, (w.ingest s m).1 = .ok report ∧ (v.ingest s m).1 = .ok report ∧
      Alike a.cardId w v (w.ingest s m).2 (v.ingest s m).2 := by
  obtain ⟨c, hid, hd, hreceive'⟩ := Desk.receive_alike hfind hlanes hreceive h.card
  rw [← h.readings] at hreceive'
  obtain ⟨x, hxdesk, hxroster, hxreadings, hxattempts, hw⟩ := ingest_of_receive hnamed hreceive
  obtain ⟨y, hydesk, hyroster, hyreadings, hyattempts, hv⟩ := ingest_of_receive hnamed hreceive'
  have hlanded : Alike a.cardId w v x y := by
    refine ⟨?_, ?_, ?_, [], ?_, ?_⟩
    · rw [hxdesk, hydesk, hd, ← hid, Desk.card?_withCard_self, Desk.card?_withCard_self]
    · rw [hxroster, hyroster, h.roster]
    · rw [hxreadings, hyreadings, h.readings]
    · rw [hxattempts, List.append_nil]
    · rw [hyattempts, List.append_nil]
  rw [hw, hv]
  split
  next =>
    obtain ⟨houtcome, hafter⟩ := answer_alike (m := m) hlanded hchannels
    rw [houtcome]
    exact ⟨_, rfl, rfl, hafter⟩
  next => exact ⟨_, rfl, rfl, hlanded⟩

theorem Lands.lanes {w' : World} (h : w.Lands s m a w') : w'.desk.lanes = w.desk.lanes := by
  obtain ⟨c, -, hdesk, -⟩ := Desk.receive_landed h.receive
  rw [hdesk]
  rfl

/-- A message changes neither the lanes nor the bots. -/
theorem ingest_keeps (w : World) (s : Setup) (m : Message) :
    (w.ingest s m).2.desk.lanes = w.desk.lanes ∧ (w.ingest s m).2.roster = w.roster := by
  have h := w.ingest_cases s m
  generalize (w.ingest s m).1 = result at h
  generalize (w.ingest s m).2 = after at h ⊢
  cases h with
  | refused _ rest => exact ⟨congrArg Desk.lanes rest.desk, rest.roster⟩
  | unanswered _ lands => exact ⟨lands.lanes, lands.roster⟩
  | @answered _ landed _ p _ _ lands plays rest =>
    have hlanes := (runTurn_moves s.laneKeyword p.world p.stage s.rules s.introductions
      p.turn).evolves.lanes
    have hroster := (p.world.runTurn_counted p.stage s.rules s.introductions p.turn).1
    have hworld : p.world.desk = landed.desk ∧ p.world.roster = landed.roster := by
      rw [plays.world]
      exact ⟨rfl, rfl⟩
    rw [hworld.1, lands.lanes] at hlanes
    rw [hworld.2, lands.roster] at hroster
    exact ⟨(congrArg Desk.lanes rest.desk).trans hlanes, rest.roster.trans hroster⟩

-- ---------------------------------------------------------------------------
-- Messages by clocks of their own
-- ---------------------------------------------------------------------------

/-- A message is taken in by a clock of its own, with these calls. No card changes but the one of
its report. -/
structure TakesIn (w : World) (s : Setup) (clock : Clock) (m : Message) (report : Report)
    (asked : List Attempt) (after : World) : Prop where
  ingested : ({ w with readings := 0 } : World).ingest { s with clock := clock } m =
    (.ok report, after)
  attempts : after.attempts = w.attempts ++ asked
  others : ∀ id, id ≠ report.cardId → after.desk.card? id = w.desk.card? id

variable {clock : Clock} {report : Report} {asked : List Attempt} {after : World}

theorem exists_takesIn {lane : Lane} (hlane : w.desk.defaultLane s.laneKeyword = .ok lane)
    (hnamed : Text.isBlank m.sender = false) (clock : Clock) :
    ∃ report asked after, w.TakesIn s clock m report asked after := by
  obtain ⟨report, after, hingest, -⟩ := ingest_takes (w := { w with readings := 0 })
    (s := { s with clock := clock }) hlane hnamed
  have hreplied := ingest_replied { w with readings := 0 } { s with clock := clock } m
  rw [hingest] at hreplied
  have hasked : ∃ asked, after.attempts = w.attempts ++ asked := by
    cases hchannel : s.channels m.platform with
    | none => exact ⟨[], by simpa using (hreplied.unreachable hchannel).1⟩
    | some channel =>
      obtain ⟨calls, -, hcalls⟩ := hreplied.calls channel hchannel
      exact ⟨_, hcalls⟩
  obtain ⟨asked, hasked⟩ := hasked
  exact ⟨report, asked, after, hingest, hasked, hreplied.others report rfl⟩

theorem TakesIn.keeps (h : w.TakesIn s clock m report asked after) :
    after.desk.lanes = w.desk.lanes ∧ after.roster = w.roster := by
  have hkeeps := ingest_keeps { w with readings := 0 } { s with clock := clock } m
  rw [h.ingested] at hkeeps
  exact hkeeps

/-- A message is taken in alike in two worlds that agree on what it goes by. -/
theorem TakesIn.alike (h : w.TakesIn s clock m report asked after)
    (hchannels : ∀ p channel, s.channels p = some channel → channel.Forgetful)
    (hroster : v.roster = w.roster) (hlanes : v.desk.lanes = w.desk.lanes)
    (hfind : v.desk.find? m.platform m.sender = w.desk.find? m.platform m.sender)
    (hcard : v.desk.card? report.cardId = w.desk.card? report.cardId) :
    ∃ after', v.TakesIn s clock m report asked after' ∧
      after'.desk.card? report.cardId = after.desk.card? report.cardId := by
  obtain ⟨hnamed, d, hreceive, -⟩ := ingest_ok h.ingested
  have hstart : Alike report.cardId { w with readings := 0 } { v with readings := 0 }
      { w with readings := 0 } { v with readings := 0 } :=
    ⟨hcard, hroster, rfl, [], (List.append_nil _).symm, (List.append_nil _).symm⟩
  obtain ⟨report', hw, hv, halike⟩ := ingest_alike (w := { w with readings := 0 })
    (v := { v with readings := 0 }) (s := { s with clock := clock }) hnamed hchannels hreceive hfind
    hlanes hstart
  have hothers := (ingest_replied { v with readings := 0 } { s with clock := clock } m).others _ hv
  rw [h.ingested] at hw halike
  obtain rfl : report = report' := Except.ok.inj hw
  obtain ⟨asked', hasked, hasked'⟩ := halike.attempts
  obtain rfl : asked = asked' := List.append_cancel_left (h.attempts.symm.trans hasked)
  exact ⟨_, ⟨Prod.ext hv rfl, hasked', hothers⟩, halike.card⟩

end World

-- ---------------------------------------------------------------------------
-- Contacts
-- ---------------------------------------------------------------------------

namespace Register

variable {r : Register} {d : Desk} {p : Platform} {sender : String}

/-- A contact is found, or not, as before a message of another. -/
theorem Kept.find?_of_other {x : Filed} (h : r.Kept) (h' : (r.after [x] d).Kept)
    (hkeys : (r.after [x] d).NoCollision)
    (hothers : ∀ id, id ≠ x.cardId → d.card? id = r.desk.card? id)
    (hcontact : Contact.of p sender ≠ x.contact) (hsender : sender ≠ "") :
    d.find? p sender = r.desk.find? p sender := by
  have hx : x ∈ (r.after [x] d).filed := List.mem_append_right _ (List.mem_singleton_self x)
  by_cases hfiled : ∃ y ∈ r.filed, Contact.of p sender = y.contact
  · obtain ⟨y, hy, hsame⟩ := hfiled
    have hy' : y ∈ (r.after [x] d).filed := List.mem_append_left _ hy
    have hother : y.cardId ≠ x.cardId := fun hid =>
      hcontact (hsame.trans (h'.contact_eq hkeys hy' hx hid))
    have hafter : d.find? p sender = d.card? y.cardId := h'.find?_eq hy' hsame hsender
    rw [hafter, h.find?_eq hy hsame hsender, hothers _ hother]
  · have hnone : ∀ y ∈ r.filed, Contact.of p sender ≠ y.contact :=
      fun y hy hsame => hfiled ⟨y, hy, hsame⟩
    have hafter : d.find? p sender = none := h'.find?_eq_none
      (List.forall_mem_append.2 ⟨hnone, List.forall_mem_singleton.2 hcontact⟩)
    rw [hafter, h.find?_eq_none hnone]

/-- The register, with the keys of messages that are yet to come. -/
def expecting (r : Register) (ms : List Message) : Register :=
  { r with hashed := r.hashed ++ ms.map fun m => contactKey m.platform m.sender }

theorem hashed_of_expected {ms : List Message} {x : Filed} (hx : x.message ∈ ms) :
    ∀ key ∈ (r.after [x] d).hashed, key ∈ (r.expecting ms).hashed := by
  refine fun key hkey => List.mem_append.2 ((List.mem_append.1 hkey).imp_right fun hkey => ?_)
  rw [List.map_singleton, List.mem_singleton] at hkey
  exact hkey ▸ List.mem_map_of_mem hx

variable {w wm wn : World} {s : Setup} {atM atN : Clock} {m n : Message} {a b : Report}
  {asked asked' : List Attempt}

theorem Kept.takesIn (h : r.Kept) (hw : w.desk = r.desk) (hm : w.TakesIn s atM m a asked wm)
    (hkeys : (r.after [⟨m, ⟨a.cardId, a.isNew⟩⟩] wm.desk).NoCollision) :
    (r.after [⟨m, ⟨a.cardId, a.isNew⟩⟩] wm.desk).Kept := by
  obtain ⟨-, d, hreceive, hattended⟩ := World.ingest_ok hm.ingested
  have hlanded : (r.after [⟨m, ⟨a.cardId, a.isNew⟩⟩] d).Kept := h.receive (hw ▸ hreceive) hkeys
  exact hlanded.tended hattended.tended

/-- The id of the card of a message is made of a key of its contact. -/
theorem Kept.named_takesIn (h : r.Kept) (hw : w.desk = r.desk) {ms : List Message}
    (hkeys : (r.expecting ms).NoCollision) (hmem : m ∈ ms) (hm : w.TakesIn s atM m a asked wm) :
    ∃ p e, Contact.of p e = m.contact ∧ contactKey p e ∈ (r.expecting ms).hashed ∧
      a.cardId = contactCardId p e := by
  have hsub := hashed_of_expected (r := r) (d := wm.desk) (x := ⟨m, ⟨a.cardId, a.isNew⟩⟩) hmem
  obtain ⟨p, e, hpe, hkey, hid⟩ := (h.takesIn hw hm (hkeys.mono hsub)).named _
    (List.mem_append_right _ (List.mem_singleton_self _))
  exact ⟨p, e, hpe, hsub _ hkey, hid⟩

/-- Messages of two contacts go to two cards. -/
theorem Kept.cardId_ne (h : r.Kept) (hw : w.desk = r.desk)
    (hkeys : (r.expecting [m, n]).NoCollision) (hcontacts : m.contact ≠ n.contact)
    (hm : w.TakesIn s atM m a asked wm) (hn : w.TakesIn s atN n b asked' wn) :
    a.cardId ≠ b.cardId := by
  intro hid
  obtain ⟨p, e, hpe, hkey, ha⟩ := h.named_takesIn hw hkeys (by simp) hm
  obtain ⟨q, e', hqe, hkey', hb⟩ := h.named_takesIn hw hkeys (by simp) hn
  rw [ha, hb] at hid
  have hsame : contactKey p e = contactKey q e' := hkeys _ hkey _ hkey' hid
  exact hcontacts (hpe.symm.trans ((Contact.of_eq_of_contactKey hsame).trans hqe))

/-- A message is taken in after that of another contact as it is without it. -/
theorem Kept.takesIn_after (h : r.Kept) (hw : w.desk = r.desk)
    (hkeys : (r.expecting [m, n]).NoCollision) (hcontacts : m.contact ≠ n.contact)
    (hchannels : ∀ p channel, s.channels p = some channel → channel.Forgetful)
    (hm : w.TakesIn s atM m a asked wm) (hn : w.TakesIn s atN n b asked' wn) :
    ∃ both, wm.TakesIn s atN n b asked' both ∧
      both.desk.card? b.cardId = wn.desk.card? b.cardId := by
  have hkeysM : (r.after [⟨m, ⟨a.cardId, a.isNew⟩⟩] wm.desk).NoCollision :=
    hkeys.mono (hashed_of_expected List.mem_cons_self)
  have hothers : ∀ id, id ≠ a.cardId → wm.desk.card? id = r.desk.card? id := by
    rw [← hw]
    exact hm.others
  have hsender : n.sender ≠ "" := Text.ne_empty_of_not_blank (World.ingest_ok hn.ingested).1
  have hfind : wm.desk.find? n.platform n.sender = r.desk.find? n.platform n.sender :=
    h.find?_of_other (h.takesIn hw hm hkeysM) hkeysM hothers hcontacts.symm hsender
  rw [← hw] at hfind
  exact hn.alike hchannels hm.keeps.2 hm.keeps.1 hfind
    (hm.others _ (h.cardId_ne hw hkeys hcontacts hm hn).symm)

end Register

namespace Service

variable {settings : Settings} {contents : String → Option String}
  {remote : Outbound.Connector → Outbound.Connector.Remote} {clock : Clock} {s : Setup} {w : World}
  {lane : Lane} {m n : Message}

/-- Messages of two contacts may come in either order. Each is taken in with the same report and the
same calls whether the other came before it or not, and changes no card but that of its report; and
they leave the same cards. -/
theorem contacts_independent (h : settings.start contents remote clock = .ok (s, w))
    (hlane : w.desk.defaultLane s.laneKeyword = .ok lane)
    (hchannels : ∀ p channel, s.channels p = some channel → channel.Forgetful)
    (requests : List Http.Request) (hm : Text.isBlank m.sender = false)
    (hn : Text.isBlank n.sender = false) (hcontacts : m.contact ≠ n.contact)
    (hkeys : ((s.register w requests).expecting [m, n]).NoCollision) (atM atN : Clock) :
    let now := s.serve w requests
    ∃ a b askedM askedN afterM afterN afterMN afterNM,
      now.TakesIn s atM m a askedM afterM ∧ afterM.TakesIn s atN n b askedN afterMN ∧
        now.TakesIn s atN n b askedN afterN ∧ afterN.TakesIn s atM m a askedM afterNM ∧
        afterMN.desk = afterNM.desk := by
  intro now
  have hkeysNow : (s.register w requests).NoCollision :=
    hkeys.mono fun _ hkey => List.mem_append_left _ hkey
  have hkept : (s.register w requests).Kept := kept_serve h hkeysNow
  have hswapped : ((s.register w requests).expecting [n, m]).NoCollision :=
    hkeys.mono (by simp +contextual [Register.expecting, or_comm])
  have hlaneNow : now.desk.defaultLane s.laneKeyword = .ok lane := by
    rw [Desk.defaultLane_congr (serve_evolves s w requests).lanes, hlane]
  obtain ⟨a, askedM, afterM, hafterM⟩ := World.exists_takesIn hlaneNow hm atM
  obtain ⟨b, askedN, afterN, hafterN⟩ := World.exists_takesIn hlaneNow hn atN
  obtain ⟨afterMN, hafterMN, hcardN⟩ :=
    hkept.takesIn_after rfl hkeys hcontacts hchannels hafterM hafterN
  obtain ⟨afterNM, hafterNM, hcardM⟩ :=
    hkept.takesIn_after rfl hswapped hcontacts.symm hchannels hafterN hafterM
  refine ⟨a, b, askedM, askedN, afterM, afterN, afterMN, afterNM, hafterM, hafterMN, hafterN,
    hafterNM, ?_⟩
  have hne : a.cardId ≠ b.cardId := hkept.cardId_ne rfl hkeys hcontacts hafterM hafterN
  have hlanes : afterMN.desk.lanes = afterNM.desk.lanes := by
    rw [hafterMN.keeps.1, hafterM.keeps.1, hafterNM.keeps.1, hafterN.keeps.1]
  have hcards : afterMN.desk.cards = afterNM.desk.cards := by
    refine Catalog.ext_get? fun id => ?_
    show afterMN.desk.card? id = afterNM.desk.card? id
    by_cases hida : id = a.cardId
    · subst hida
      rw [hafterMN.others _ hne, hcardM]
    by_cases hidb : id = b.cardId
    · subst hidb
      rw [hafterNM.others _ hne.symm, hcardN]
    rw [hafterMN.others _ hidb, hafterM.others _ hida, hafterNM.others _ hida,
      hafterN.others _ hidb]
  exact congrArg₂ Desk.mk hcards hlanes

/-- The visitor who said hello writes again, while somebody else does on another platform. -/
theorem contacts_independent_lobby :
    lobby.start lobbySeed unreachable dawn = .ok (lobbySetup, lobbyWorld) ∧
      ∃ a b askedM askedN afterM afterN afterMN afterNM,
        (lobbySetup.serve lobbyWorld [greeting]).TakesIn lobbySetup dawn
            (.ofText .webChat "s1" "Hola") a askedM afterM ∧
          afterM.TakesIn lobbySetup dawn (.ofText .whatsApp "+34 600" "Hola") b askedN afterMN ∧
          (lobbySetup.serve lobbyWorld [greeting]).TakesIn lobbySetup dawn
            (.ofText .whatsApp "+34 600" "Hola") b askedN afterN ∧
          afterN.TakesIn lobbySetup dawn (.ofText .webChat "s1" "Hola") a askedM afterNM ∧
          afterMN.desk = afterNM.desk := by
  obtain ⟨lane, hlane⟩ := lane_lobby
  have hchannels : ∀ p channel, lobbySetup.channels p = some channel → channel.Forgetful := by
    intro p channel hchannel
    cases p <;> cases hchannel
    exact fun _ _ => rfl
  have hcontacts : (Message.ofText .webChat "s1" "Hola").contact ≠
      (Message.ofText .whatsApp "+34 600" "Hola").contact := by decide +kernel
  have hkeys : ((lobbySetup.register lobbyWorld [greeting]).expecting
      [.ofText .webChat "s1" "Hola", .ofText .whatsApp "+34 600" "Hola"]).NoCollision := by
    unfold Register.NoCollision
    decide +kernel
  exact ⟨start_lobby, contacts_independent start_lobby hlane hchannels [greeting]
    (by decide +kernel) (by decide +kernel) hcontacts hkeys dawn dawn⟩

end Service

end Switchboard
