import Switchboard.Proofs.Service.Batches

/-!
# Refused deliveries

There is a lane for new cards, or there is no card at all (`Desk.Furnished`), and no request changes
that. So a delivery can only be refused before its first message is taken in, and then it has done
nothing (`refused_untouched`): a platform that delivers it again does not double a part of it.
-/

namespace Switchboard

open Service

namespace Desk

variable {keyword : String} {clock : Clock} {d d' : Desk}

/-- There is a lane for new cards, or there are no cards. -/
def Furnished (keyword : String) (d : Desk) : Prop :=
  (∃ lane, d.defaultLane keyword = .ok lane) ∨ ∀ id, d.card? id = none

theorem Furnished.move (h : d.Furnished keyword) (hmove : d.Move keyword clock d') :
    d'.Furnished keyword := by
  rcases h with ⟨lane, hlane⟩ | hnone
  · refine .inl ⟨lane, ?_⟩
    rw [defaultLane_congr hmove.evolves.lanes, hlane]
  · rcases hmove.eq_or_withCard with rfl | ⟨c, _, hc, _⟩ | ⟨lane, m, _, _, _, hlane, _, _, rfl⟩
    · exact .inr hnone
    · rw [hnone] at hc; cases hc
    · exact .inl ⟨lane, hlane⟩

theorem find?_of_no_card (h : ∀ id, d.card? id = none) (p : Platform) (sender : String) :
    d.find? p sender = none := by
  cases hf : d.find? p sender with
  | none => rfl
  | some c => rw [(find?_some hf).1.symm.trans (h c.id)]

end Desk

namespace World

variable {w w' w'' : World} {s : Setup} {m : Message} {ms : List Message}

/-- No card, lane or bot has changed, and no platform was called. -/
structure Untouched (w w' : World) : Prop where
  desk : w'.desk = w.desk
  roster : w'.roster = w.roster
  attempts : w'.attempts = w.attempts

theorem Untouched.refl (w : World) : w.Untouched w := ⟨rfl, rfl, rfl⟩

theorem Untouched.tick (w : World) : w.Untouched w.tick := ⟨rfl, rfl, rfl⟩

theorem Untouched.trans (h : w.Untouched w') (h' : w'.Untouched w'') : w.Untouched w'' :=
  ⟨h'.desk.trans h.desk, h'.roster.trans h.roster, h'.attempts.trans h.attempts⟩

-- ---------------------------------------------------------------------------
-- Batches that are refused
-- ---------------------------------------------------------------------------

/-- On a desk without lanes and cards nothing can be taken in. -/
theorem ingest_untouched {e : DeskError} (hlane : w.desk.defaultLane s.laneKeyword = .error e)
    (hnone : ∀ id, w.desk.card? id = none) (m : Message) : w.Untouched (w.ingest s m).2 := by
  have he : w.desk.receive s.laneKeyword m (s.clock w.readings) = .error e :=
    Desk.receive_of_no_lane (Desk.find?_of_no_card hnone m.platform m.sender) hlane
  have hreceive : (w.count (.ingressed m.platform)).receive s.clock s.laneKeyword m =
      (.error e, (w.count (.ingressed m.platform)).tick) := by
    simp [receive, onDesk, count, he]
  unfold ingest
  split
  · exact .refl w
  · rw [hreceive]
    exact ⟨rfl, rfl, rfl⟩

theorem ingestAll_untouched {e : DeskError}
    (hlane : w.desk.defaultLane s.laneKeyword = .error e) (hnone : ∀ id, w.desk.card? id = none)
    (ms : List Message) : w.Untouched (w.ingestAll s ms).2 := by
  induction ms generalizing w with
  | nil => exact .refl w
  | cons m ms ih =>
    have hm := ingest_untouched hlane hnone m
    have hrest : ∀ w', w.Untouched w' → w.Untouched (w'.ingestAll s ms).2 := fun w' h =>
      h.trans (ih (by rw [h.desk]; exact hlane) (by rw [h.desk]; exact hnone))
    unfold ingestAll
    split
    next report w' hw =>
      rw [hw] at hm
      have hall := hrest w' hm
      split <;> rename_i hms <;> rw [hms] at hall <;> exact hall
    next detail w' hw => rw [hw] at hm; exact hrest w' hm
    next f w' _ hw => rw [hw] at hm; exact hm

theorem ingestAll_ok {lane : Lane} (hlane : w.desk.defaultLane s.laneKeyword = .ok lane)
    (ms : List Message) : ∃ reports w', w.ingestAll s ms = (.ok reports, w') := by
  induction ms generalizing w with
  | nil => exact ⟨[], w, rfl⟩
  | cons m ms ih =>
    cases hm : Text.isBlank m.sender with
    | true => rw [ingestAll_cons_of_blank hm]; exact ih hlane
    | false =>
      obtain ⟨report, w₁, hingest, htook⟩ := ingest_takes hlane hm
      have hlane₁ : w₁.desk.defaultLane s.laneKeyword = .ok lane := by
        rw [Desk.defaultLane_congr htook.lanes, hlane]
      obtain ⟨reports, w', he⟩ := ih hlane₁
      exact ⟨report :: reports, w', ingestAll_cons_of_ok hingest he⟩

/-- A batch is refused as a whole. -/
theorem ingestAll_refused (h : w.desk.Furnished s.laneKeyword) {f : Fault}
    (hrefused : w.ingestAll s ms = (.error f, w')) : w.Untouched w' := by
  cases hlane : w.desk.defaultLane s.laneKeyword with
  | ok lane =>
    obtain ⟨reports, w₁, he⟩ := ingestAll_ok hlane ms
    rw [hrefused] at he
    cases he
  | error e =>
    have hnone := h.resolve_left (by rintro ⟨lane, hl⟩; rw [hlane] at hl; cases hl)
    have hall := ingestAll_untouched hlane hnone ms
    rw [hrefused] at hall
    exact hall

theorem ingest_refused (h : w.desk.Furnished s.laneKeyword) {f : Fault}
    (hrefused : w.ingest s m = (.error f, w')) : w.Untouched w' := by
  cases hm : Text.isBlank m.sender with
  | true =>
    simp only [ingest, hm, if_true] at hrefused
    cases hrefused
    exact .refl w
  | false =>
    cases hlane : w.desk.defaultLane s.laneKeyword with
    | ok lane =>
      obtain ⟨report, w₁, he, -⟩ := ingest_takes hlane hm
      rw [hrefused] at he
      cases he
    | error e =>
      have hnone := h.resolve_left (by rintro ⟨lane, hl⟩; rw [hlane] at hl; cases hl)
      have hone := ingest_untouched hlane hnone m
      rw [hrefused] at hone
      exact hone

theorem markAllRead_ok (w : World) (s : Setup) (p : Platform) (senders : List String) :
    ∃ n w', w.markAllRead s p senders = (.ok n, w') := by
  induction senders generalizing w with
  | nil => exact ⟨0, w, rfl⟩
  | cons sender senders ih =>
    obtain ⟨found, w₁, hw⟩ : ∃ found w₁,
        (w.onDesk s.clock fun d now => d.markRead p sender now) = (.ok found, w₁) := by
      unfold onDesk
      rcases Desk.markRead_cases w.desk p sender (s.clock w.readings) with he | ⟨c, -, he⟩ <;>
        simp [he]
    obtain ⟨n, w', hrest⟩ := ih w₁
    unfold markAllRead
    rw [hw]
    dsimp only
    rw [hrest]
    exact ⟨_, _, rfl⟩

end World

namespace Service

open Routes

-- ---------------------------------------------------------------------------
-- Requests that are refused
-- ---------------------------------------------------------------------------

/-- A reply that says that the request was carried out. -/
def Succeeds (reply : Http.Reply) : Prop := 200 ≤ reply.status ∧ reply.status < 300

theorem succeeds_json (v : Json) : Succeeds (.json 200 v) := by
  constructor <;> simp [Http.Reply.json]

/-- A handler that says that it succeeded, or has done nothing. -/
def Handler.RefusesWhole (s : Setup) (handle : Handler) : Prop :=
  ∀ w : World, w.desk.Furnished s.laneKeyword →
    (∃ reply, (handle w).1 = .ok reply ∧ Succeeds reply) ∨ w.Untouched (handle w).2

variable (s : Setup) (r : Http.Request)

theorem takeIn_refusesWhole (messages : Time.Instant → List Message) {done : Http.Reply}
    (hdone : Succeeds done) : Handler.RefusesWhole s (takeIn s messages done) := by
  intro w hw
  unfold takeIn
  split
  next f w' he => exact .inr ((World.Untouched.tick w).trans (World.ingestAll_refused hw he))
  next => exact .inl ⟨done, rfl, hdone⟩

theorem whatsApp_refusesWhole : Handler.RefusesWhole s (whatsApp s r) := by
  intro w hw
  unfold whatsApp
  split
  next => exact .inr (.refl w)
  next v _ =>
    split
    next f w' he => exact .inr ((World.Untouched.tick w).trans (World.ingestAll_refused hw he))
    next reports w' _ =>
      obtain ⟨n, w'', hn⟩ := World.markAllRead_ok w' s .whatsApp (Inbound.WhatsApp.readers v)
      rw [hn]
      exact .inl ⟨_, rfl, succeeds_json _⟩

theorem metaDelivery_refusesWhole : Handler.RefusesWhole s (metaDelivery s r) := by
  intro w hw
  unfold metaDelivery
  split
  next => exact .inr (.refl w)
  next v _ => exact takeIn_refusesWhole s _ ⟨by decide, by decide⟩ w hw

theorem telegram_refusesWhole : Handler.RefusesWhole s (telegram s r) := by
  intro w hw
  unfold telegram
  split
  next => exact .inr (.refl w)
  next v _ => exact takeIn_refusesWhole s _ ⟨by decide, by decide⟩ w hw

theorem xDelivery_refusesWhole : Handler.RefusesWhole s (xDelivery s r) := by
  intro w hw
  unfold xDelivery
  split
  next => exact .inr (.refl w)
  next v _ => exact takeIn_refusesWhole s _ ⟨by decide, by decide⟩ w hw

theorem tikTok_refusesWhole : Handler.RefusesWhole s (tikTok s r) := by
  intro w hw
  unfold tikTok
  split
  next => exact .inr (.refl w)
  next v _ => exact takeIn_refusesWhole s _ ⟨by decide, by decide⟩ w hw

theorem widgetPost_refusesWhole : Handler.RefusesWhole s (widgetPost s r) := by
  intro w hw
  unfold widgetPost
  split
  next => exact .inr (.refl w)
  next v _ =>
    split
    next f w' he => exact .inr ((World.Untouched.tick w).trans (World.ingest_refused hw he))
    next => exact .inl ⟨_, rfl, succeeds_json _⟩

/-- The resources to which messages are delivered. -/
def Resource.takesIn : Resource → Bool
  | whatsAppHook | metaHook | telegramHook | xHook | tikTokHook | widgetPosts => true
  | _ => false

theorem handler?_refusesWhole {resource : Resource} (h : resource.takesIn = true) :
    ∃ handle, handler? s r resource "POST" = some handle ∧ Handler.RefusesWhole s handle := by
  cases resource <;> cases h
  · exact ⟨_, rfl, whatsApp_refusesWhole s r⟩
  · exact ⟨_, rfl, metaDelivery_refusesWhole s r⟩
  · exact ⟨_, rfl, telegram_refusesWhole s r⟩
  · exact ⟨_, rfl, xDelivery_refusesWhole s r⟩
  · exact ⟨_, rfl, tikTok_refusesWhole s r⟩
  · exact ⟨_, rfl, widgetPost_refusesWhole s r⟩

-- ---------------------------------------------------------------------------
-- A run of the service
-- ---------------------------------------------------------------------------

variable {settings : Settings} {contents : String → Option String}
  {remote : Outbound.Connector → Outbound.Connector.Remote} {clock : Clock} {w : World} {s}

theorem furnished_serve (h : settings.start contents remote clock = .ok (s, w))
    (requests : List Http.Request) :
    (s.serve w requests).desk.Furnished s.laneKeyword := by
  refine (serve_moves s w requests).keep (fun _ _ hd hmove => hd.move hmove) (.inr fun id => ?_)
  rw [Desk.card?, cards_plant (start_ok h).1]
  rfl

/-- A delivery that is not answered with a success has changed no card, lane or bot and called no
platform, at whatever moment of a run it comes. -/
theorem refused_untouched (h : settings.start contents remote clock = .ok (s, w))
    (earlier : List Http.Request) (r : Http.Request) {resource : Resource}
    (hpath : Resource.ofPath? r.path = some resource) (htakes : resource.takesIn = true)
    (hpost : r.method = "POST")
    (hrefused : ¬ Succeeds (s.answer r (s.serve w earlier)).1) :
    (s.serve w earlier).Untouched (s.answer r (s.serve w earlier)).2 := by
  have hfurnished := furnished_serve h earlier
  generalize s.serve w earlier = w at hfurnished hrefused ⊢
  obtain ⟨handle, hhandle, hwhole⟩ := handler?_refusesWhole s r htakes
  rcases hwhole w hfurnished with ⟨reply, hreply, hsucceeds⟩ | huntouched
  · have hanswer : (s.answer r w).1 = reply := by
      simp [Setup.answer, hpath, hpost, hhandle, hreply]
    rw [hanswer] at hrefused
    exact absurd hsucceeds hrefused
  · have hanswer : (s.answer r w).2 = (handle w).2 := by
      simp [Setup.answer, hpath, hpost, hhandle]
    rw [hanswer]
    exact huntouched

/-- Without a lane nobody can be received. -/
theorem refused_untouched_unfurnished :
    let settings := { lobby with seedFile := none }
    let s := lobbySetup
    let w := World.start Desk.empty Roster.empty
    settings.start lobbySeed unreachable dawn = .ok (s, w) ∧
      Resource.ofPath? greeting.path = some .widgetPosts ∧
      (s.answer greeting (s.serve w [greeting])).1.status = 500 ∧
      (s.serve w [greeting]).Untouched (s.answer greeting (s.serve w [greeting])).2 := by
  intro settings s w
  have hstart : settings.start lobbySeed unreachable dawn = .ok (s, w) := rfl
  have hpath : Resource.ofPath? greeting.path = some .widgetPosts := by decide +kernel
  have hstatus : (s.answer greeting (s.serve w [greeting])).1.status = 500 := by decide +kernel
  refine ⟨hstart, hpath, hstatus, ?_⟩
  refine refused_untouched hstart [greeting] greeting hpath rfl rfl ?_
  rintro ⟨-, hlow⟩
  rw [hstatus] at hlow
  exact absurd hlow (by decide)

end Service

end Switchboard
