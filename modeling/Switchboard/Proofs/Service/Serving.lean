import Switchboard.Proofs.Card.Documents
import Switchboard.Proofs.Http.Paths
import Switchboard.Proofs.Inbound.Contents

/-!
# Serving cards

Every time on a card is a reading of the clock or was told by a contact (`Card.Servable`), whatever
the service was asked. So a card is served, as a document from which it is read back, unless a line
of the contact bears a time before the year zero (`card_served`). Such a time is accepted in a
payload, but has no written form (`ancient_unserved`).
-/

namespace Switchboard

open Service

/-- The details on a card are those of the message, or were there before. -/
theorem Message.details_of_addTo {m : Message} {now : Time.Instant} {c : Card} {p : Platform}
    {v : Json} (h : (m.addTo now c).details p = some v) :
    m.details = some v ∨ c.details p = some v := by
  rw [details_addTo] at h
  split at h
  · exact .inl h
  · exact .inr h

namespace Card

/-- A time that comes from the clock, or from one of the lines. -/
def Dates (clock : Clock) (lines : List Entry) (t : Time.Instant) : Prop :=
  (∃ n, t = clock n) ∨ ∃ e ∈ lines, t = e.sentAt

/-- What holds of a card at every moment of a run. -/
structure Servable (clock : Clock) (c : Card) : Prop where
  id : ∃ name, c.id = Digest.nameId name
  details : ∀ p v, c.details p = some v → Json.Plain 1 v
  lines : ∀ e ∈ c.entries, (∃ n, e.sentAt = clock n) ∨ e.author = .contact ∧ e.sentAt.Told
  position : ∀ p, c.position = some p → ∃ n, p.touchedAt = clock n
  createdAt : ∃ n, c.createdAt = clock n
  updatedAt : Dates clock c.entries c.updatedAt
  lastReadAt : ∀ t, c.lastReadAt = some t → ∃ n, t = clock n

variable {clock : Clock} {c c' : Card} {lines : List Entry} {t u : Time.Instant}

theorem Dates.later (ht : Dates clock lines t) (hu : Dates clock lines u) :
    Dates clock lines (Time.later t u) := by
  unfold Time.later
  split
  · exact hu
  · exact ht

theorem Dates.append (h : Dates clock lines t) (e : Entry) : Dates clock (lines ++ [e]) t := by
  rcases h with ⟨n, hn⟩ | ⟨x, hx, hxt⟩
  · exact .inl ⟨n, hn⟩
  · exact .inr ⟨x, List.mem_append_left _ hx, hxt⟩

theorem Dates.now (n : Nat) : Dates clock lines (clock n) := .inl ⟨n, rfl⟩

theorem Servable.touch (h : c.Servable clock) (n : Nat) : (c.touch (clock n)).Servable clock :=
  { h with updatedAt := h.updatedAt.later (.now n) }

theorem Servable.append (h : c.Servable clock) {e : Entry}
    (he : (∃ n, e.sentAt = clock n) ∨ e.author = .contact ∧ e.sentAt.Told) :
    (c.append e).Servable clock :=
  { h with
    lines := by
      simp only [append_entries, List.forall_mem_append, List.forall_mem_singleton]
      exact ⟨h.lines, he⟩
    updatedAt := .later (.inr ⟨e, List.mem_append_right _ List.mem_cons_self, rfl⟩)
      (h.updatedAt.append e) }

theorem Servable.addTo (h : c.Servable clock) {m : Message} {arrived : Nat}
    (hm : Inbound.Brings (clock arrived) m) (n : Nat) : (m.addTo (clock n) c).Servable clock := by
  have htidy := hm.tidy
  have hline : (∃ n, m.entry.sentAt = clock n) ∨
      m.entry.author = .contact ∧ m.entry.sentAt.Told := by
    rcases htidy.time with ht | ht
    · exact .inl ⟨arrived, ht⟩
    · exact .inr ⟨rfl, ht⟩
  have happend := h.append hline
  refine { happend with details := ?_, updatedAt := happend.updatedAt.later (.now n) }
  intro p v hv
  rcases Message.details_of_addTo hv with hv | hv
  · exact htidy.details v hv
  · exact h.details p v hv

theorem Servable.becomes (h : c.Servable clock) (hc : c.Becomes clock c') : c'.Servable clock := by
  cases hc with
  | written arrived n hm => exact h.addTo hm n
  | read n =>
    have hread : Servable clock { c with lastReadAt := some (clock n) } :=
      { h with lastReadAt := fun t ht => ⟨n, (Option.some.inj ht).symm⟩ }
    exact hread.touch n
  | @placed p n touched =>
    have hplaced : Servable clock { c with position := some p } :=
      { h with position := fun q hq => ⟨n, by obtain rfl := Option.some.inj hq; exact touched⟩ }
    exact hplaced.touch n
  | answered text n _ => exact (h.append (.inl ⟨n, rfl⟩)).touch n
  | learned name value n =>
    have hlearned : Servable clock { c with fields := c.fields.set name value } := { h with }
    exact hlearned.touch n
  | renamed name n =>
    unfold Card.renamed
    split
    · exact h
    · have hrenamed : Servable clock { c with contactName := Text.trim name } := { h with }
      exact hrenamed.touch n

theorem servable_blankCard (m : Message) (lane : Lane) (n : Nat) :
    (m.blankCard (contactCardId m.platform m.sender) lane (clock n)).Servable clock where
  id := ⟨_, rfl⟩
  details _ _ h := by cases h
  lines _ h := by cases h
  position _ h := by cases h
  createdAt := ⟨n, rfl⟩
  updatedAt := .now n
  lastReadAt _ h := by cases h

end Card

namespace Desk

variable {keyword : String} {clock : Clock} {d d' : Desk}

/-- Every card on the desk can be served. -/
def Servable (clock : Clock) (d : Desk) : Prop := ∀ id c, d.card? id = some c → c.Servable clock

theorem Servable.withCard (h : d.Servable clock) {c : Card} (hc : c.Servable clock) :
    (d.withCard c).Servable clock := by
  intro id x hx
  rw [card?_withCard] at hx
  split at hx
  · cases hx; exact hc
  · exact h id x hx

theorem Servable.move (h : d.Servable clock) (hmove : d.Move keyword clock d') :
    d'.Servable clock := by
  rcases hmove.eq_or_withCard with
    rfl | ⟨c, c', hc, hbecomes, rfl⟩ | ⟨lane, m, arrived, n, id, -, hm, rfl, rfl⟩
  · exact h
  · exact h.withCard ((h _ c hc).becomes hbecomes)
  · exact h.withCard ((Card.servable_blankCard m lane n).addTo hm n)

end Desk

-- ---------------------------------------------------------------------------
-- Documents of cards that are servable
-- ---------------------------------------------------------------------------

/-- A clock that shows universal time in a year of four digits. -/
def Clock.Current (clock : Clock) : Prop := ∀ n, (clock n).HasForm ∧ (clock n).offset = 0

namespace Card

variable {clock : Clock} {c : Card}

/-- Of all times on the card, those of the lines alone do not come from the clock. -/
theorem Servable.forall_times (h : c.Servable clock) {P : Time.Instant → Prop}
    (hclock : ∀ n, P (clock n)) : (∀ t ∈ c.times, P t) ↔ ∀ e ∈ c.entries, P e.sentAt := by
  have hnow : ∀ {t : Time.Instant}, (∃ n, t = clock n) → P t := by
    rintro _ ⟨n, rfl⟩
    exact hclock n
  simp only [times, List.forall_mem_append, List.forall_mem_cons, List.forall_mem_map]
  refine ⟨fun hall => hall.1, fun hlines => ⟨hlines, ?_, ⟨hnow h.createdAt, ?_, by simp⟩, ?_⟩⟩
  · cases hp : c.position with
    | none => simp
    | some p => simpa using hnow (h.position p hp)
  · rcases h.updatedAt with ht | ⟨e, he, ht⟩
    · exact hnow ht
    · rw [ht]; exact hlines e he
  · cases ht : c.lastReadAt with
    | none => simp
    | some t => simpa using hnow (h.lastReadAt t ht)

theorem Servable.near (h : c.Servable clock) (hclock : clock.Current) : ∀ t ∈ c.times, t.Near := by
  have hnow : ∀ n, (clock n).Near := by
    intro n
    rw [Time.Instant.Near, (hclock n).2]
    decide
  refine (h.forall_times hnow).2 fun e he => ?_
  rcases h.lines e he with ⟨n, hn⟩ | ⟨-, htold⟩
  · rw [hn]; exact hnow n
  · exact htold.1

/-- Only the lines decide whether the card has a document. -/
theorem Servable.hasForm (h : c.Servable clock) (hclock : clock.Current) :
    (∀ t ∈ c.times, t.HasForm) ↔ ∀ e ∈ c.entries, e.sentAt.HasForm :=
  h.forall_times fun n => (hclock n).1

end Card

namespace Service

-- ---------------------------------------------------------------------------
-- A run of the service
-- ---------------------------------------------------------------------------

variable {settings : Settings} {contents : String → Option String}
  {remote : Outbound.Connector → Outbound.Connector.Remote} {clock : Clock} {w : World} {s : Setup}

theorem clock_start (h : settings.start contents remote clock = .ok (s, w)) : s.clock = clock := by
  obtain ⟨-, channels, -, rfl⟩ := start_ok h
  rfl

theorem servable_serve (h : settings.start contents remote clock = .ok (s, w))
    (requests : List Http.Request) : (s.serve w requests).desk.Servable clock := by
  have hmoves := serve_moves s w requests
  rw [clock_start h] at hmoves
  refine hmoves.keep (fun _ _ hd hmove => hd.move hmove) fun id c hc => ?_
  rw [Desk.card?, cards_plant (start_ok h).1] at hc
  cases hc

theorem answer_cardPath {r : Http.Request} {c : Card} (hget : r.method = "GET")
    (hpath : r.path = cardPath c.id) (hid : ∃ name, c.id = Digest.nameId name)
    (hc : w.desk.card? c.id = some c) : (s.answer r w).1 = .document c.toJson? := by
  obtain ⟨name, hname⟩ := hid
  obtain ⟨hne, hchars⟩ := Digest.nameId_chars name
  rw [← hname] at hne hchars
  have hresource : Resource.ofPath? r.path = some (.card c.id) := by
    rw [hpath]
    exact ofPath?_cardPath hne fun x hx => (hchars x hx).1
  have hpart : Http.pathPart? c.id = some c.id :=
    Http.pathPart?_plain fun x hx => (hchars x hx).2
  have hdocument : Routes.cardDocument c.id w = .ok (.document c.toJson?) := by
    have hpathName : Routes.pathName c.id = .ok c.id := by rw [Routes.pathName, hpart]
    simp only [Routes.cardDocument, hpathName, bind, Except.bind, hc]
    rfl
  simp [Setup.answer, hresource, hget, Routes.handler?, hdocument]

/-- At every moment of a run each card is served as a document from which it is read back, unless
the time of one of its lines has no written form. Such a line is the contact's, and its time lies
before the year zero. -/
theorem card_served (h : settings.start contents remote clock = .ok (s, w)) (hclock : clock.Current)
    (requests : List Http.Request) {id : String} {c : Card}
    (hc : (s.serve w requests).desk.card? id = some c) {r : Http.Request} (hget : r.method = "GET")
    (hpath : r.path = cardPath id) :
    let reply := (s.answer r (s.serve w requests)).1
    ((∀ e ∈ c.entries, e.sentAt.HasForm) → reply.status = 200 ∧ ∃ v, reply.content = .json v ∧
        (Json.read? v.print).bind Card.ofJson? = some c) ∧
      ((∃ e ∈ c.entries, ¬ e.sentAt.HasForm) → reply.status = 500) ∧
      ∀ e ∈ c.entries, ¬ e.sentAt.HasForm → e.author = .contact ∧ e.sentAt.offset = 0 ∧
        -9999 ≤ e.sentAt.localDate.year ∧ e.sentAt.localDate.year < 0 := by
  intro reply
  obtain rfl := Desk.id_of_card? hc
  have hservable := servable_serve h requests _ c hc
  have hreply : reply = .document c.toJson? := answer_cardPath hget hpath hservable.id hc
  refine ⟨fun hlines => ?_, fun hline => ?_, fun e he hform => ?_⟩
  · obtain ⟨v, hv⟩ := Card.toJson?_some.2 ((hservable.hasForm hclock).2 hlines)
    have hplain : Json.Plain Json.maxDepth v :=
      (Card.plain_of_toJson? hservable.details hv).mono (by decide)
    have hback := Card.ofJson?_of_toJson? (hservable.near hclock) hv
    rw [hreply, hv]
    refine ⟨rfl, v, rfl, ?_⟩
    rw [Json.read?_print hplain, Option.bind_some, hback]
  · have hnone : c.toJson? = none := by
      cases hv : c.toJson? with
      | none => rfl
      | some v =>
        obtain ⟨e, he, hform⟩ := hline
        exact absurd ((hservable.hasForm hclock).1 (Card.toJson?_some.1 ⟨v, hv⟩) e he) hform
    rw [hreply, hnone]
    rfl
  · rcases hservable.lines e he with ⟨n, hn⟩ | ⟨hauthor, -, hform' | htold⟩
    · rw [hn] at hform
      exact absurd (hclock n).1 hform
    · exact absurd hform' hform
    · exact ⟨hauthor, htold⟩

/-- The request for a card. -/
def cardRequest (id : String) : Http.Request where
  method := "GET"
  path := cardPath id
  query := ""
  headers := []
  body := []

/-- An update with a message of a chat, at a time in seconds. -/
def timedUpdate (seconds : String) : Http.Request where
  method := "POST"
  path := "/webhooks/telegram"
  query := ""
  headers := []
  body := Text.utf8 ("\x7b\"message\": \x7b\"chat\": \x7b\"id\": 9\x7d, \"date\": " ++ seconds ++
    "\x7d\x7d")

theorem exists_card_of_map {α : Type} {d : Desk} {f : Card → α} {x : α}
    (h : d.cards.items.map f = [x]) : ∃ c, d.card? c.id = some c ∧ f c = x := by
  obtain ⟨c, hc, hx⟩ := List.map_eq_singleton_iff.1 h
  exact ⟨c, Desk.mem_cards_iff.1 (by rw [hc]; simp), hx⟩

theorem dawn_current : Clock.Current dawn := by
  have hform : Time.Instant.HasForm ⟨0, 0⟩ := by decide
  exact fun _ => ⟨hform, rfl⟩

/-- The first second of the year zero can be written. -/
theorem card_served_year_zero :
    lobby.start lobbySeed unreachable dawn = .ok (lobbySetup, lobbyWorld) ∧ Clock.Current dawn ∧
      ∃ c, (lobbySetup.serve lobbyWorld [timedUpdate "-62167219200"]).desk.card? c.id = some c ∧
        ∃ v, (lobbySetup.answer (cardRequest c.id)
            (lobbySetup.serve lobbyWorld [timedUpdate "-62167219200"])).1.content = .json v ∧
          (Json.read? v.print).bind Card.ofJson? = some c := by
  have hforms : (lobbySetup.serve lobbyWorld [timedUpdate "-62167219200"]).desk.cards.items.map
      (fun c => c.entries.all fun e => decide e.sentAt.HasForm) = [true] := by decide +kernel
  obtain ⟨c, hc, hform⟩ := exists_card_of_map hforms
  have hlines : ∀ e ∈ c.entries, e.sentAt.HasForm := by simpa using hform
  obtain ⟨-, v, hv⟩ := (card_served start_lobby dawn_current [timedUpdate "-62167219200"] hc
    (r := cardRequest c.id) rfl rfl).1 hlines
  exact ⟨start_lobby, dawn_current, c, hc, v, hv⟩

/-- The last second before the year zero is taken for the time of a message all the same. -/
theorem ancient_unserved :
    lobby.start lobbySeed unreachable dawn = .ok (lobbySetup, lobbyWorld) ∧
      ∃ c, (lobbySetup.serve lobbyWorld [timedUpdate "-62167219201"]).desk.card? c.id = some c ∧
        (lobbySetup.answer (cardRequest c.id)
          (lobbySetup.serve lobbyWorld [timedUpdate "-62167219201"])).1.status = 500 := by
  have hdocuments : (lobbySetup.serve lobbyWorld
      [timedUpdate "-62167219201"]).desk.cards.items.map (fun c => c.toJson?.isNone) = [true] := by
    decide +kernel
  obtain ⟨c, hc, hnone⟩ := exists_card_of_map hdocuments
  have hservable := servable_serve start_lobby [timedUpdate "-62167219201"] _ c hc
  refine ⟨start_lobby, c, hc, ?_⟩
  rw [answer_cardPath (r := cardRequest c.id) rfl rfl hservable.id hc,
    Option.isNone_iff_eq_none.1 hnone]
  rfl

end Service

end Switchboard
