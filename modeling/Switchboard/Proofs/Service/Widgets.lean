import Mathlib.Data.List.Induction
import Switchboard.Proofs.Inbound.Platforms
import Switchboard.Proofs.Service.Filings
import Switchboard.Proofs.Service.History
import Switchboard.Proofs.Service.Serving

/-!
# Widgets

A session leads to one card throughout a run, unless two keys have one id, and lines are only ever
added at the end of a card. So a widget that asks each time for what follows the lines it has gets
every line of its card once (`widget_sees_all`), whatever else the service is asked in between.
-/

namespace Switchboard

open Service

-- ---------------------------------------------------------------------------
-- Lines in their form
-- ---------------------------------------------------------------------------

/-- The items of an array that is replied; of anything else there are none. -/
def Http.Reply.items (r : Http.Reply) : List Json :=
  match r.content with
  | .json v => v.items
  | _ => []

namespace Card

variable {c c' : Card} {received vs : List Json}

/-- The first lines of the card have been received, in their form. -/
def Shown (c : Card) (received : List Json) : Prop :=
  ∃ lines, lines <+: c.entries ∧ lines.mapM Entry.toJson? = some received

theorem shown_nil (c : Card) : c.Shown [] := ⟨[], List.nil_prefix, rfl⟩

theorem shown_all (h : c.entries.mapM Entry.toJson? = some received) : c.Shown received :=
  ⟨c.entries, List.prefix_refl _, h⟩

theorem Shown.grows (h : c.Shown received) (hg : c.Grows c') : c'.Shown received := by
  obtain ⟨lines, hprefix, hlines⟩ := h
  exact ⟨lines, hprefix.trans hg.entries, hlines⟩

theorem length_of_mapM {α β : Type} {f : α → Option β} {xs : List α} {ys : List β}
    (h : xs.mapM f = some ys) : ys.length = xs.length := by
  induction xs generalizing ys with
  | nil => cases h; rfl
  | cons x xs ih =>
    rw [List.mapM_cons] at h
    obtain ⟨y, -, h⟩ := Option.bind_eq_some_iff.1 h
    obtain ⟨zs, hzs, h⟩ := Option.bind_eq_some_iff.1 h
    cases h
    rw [List.length_cons, List.length_cons, ih hzs]

/-- With the lines that follow those received, all lines are received. -/
theorem Shown.rest (h : c.Shown received)
    (hrest : (c.entries.drop received.length).mapM Entry.toJson? = some vs) :
    c.entries.mapM Entry.toJson? = some (received ++ vs) := by
  obtain ⟨lines, ⟨more, hmore⟩, hlines⟩ := h
  rw [length_of_mapM hlines, ← hmore, List.drop_left] at hrest
  rw [← hmore, List.mapM_append, hlines, hrest]
  rfl

end Card

namespace Service

variable {s : Setup} {w : World} {r : Http.Request} {session : String} {k : Nat} {c : Card}

-- ---------------------------------------------------------------------------
-- Polls
-- ---------------------------------------------------------------------------

/-- A widget's request for the lines of its session that follow the first of them. -/
structure Polls (session : String) (k : Nat) (r : Http.Request) : Prop where
  get : r.method = "GET"
  path : ∃ part, Resource.ofPath? r.path = some (.widgetHistory part) ∧
    Routes.pathName part = .ok session
  after : Routes.afterOf r = .ok k

/-- A poll changes nothing. -/
theorem Polls.answer (h : Polls session k r) (hc : w.desk.find? .webChat session = some c)
    (hforms : ∀ e ∈ c.entries, e.sentAt.HasForm) :
    ∃ vs, (c.entries.drop k).mapM Entry.toJson? = some vs ∧
      s.answer r w = (.json 200 (.arr vs), w) := by
  obtain ⟨part, hpath, hname⟩ := h.path
  obtain ⟨vs, hvs⟩ : ∃ vs, (c.entries.drop k).mapM Entry.toJson? = some vs :=
    exists_mapM_iff.2 fun e he => Entry.toJson?_some.2 (hforms e (List.mem_of_mem_drop he))
  have hhistory : Routes.history part r w = .ok (.json 200 (.arr vs)) := by
    simp only [Routes.history, hname, h.after, bind, Except.bind, hc, hvs]
    rfl
  refine ⟨vs, hvs, ?_⟩
  rw [answer_of_handler? hpath h.get (by decide) rfl]
  unfold Handler.reply
  simp only [hhistory]

/-- A visit of a widget, with what is asked of the service before it. -/
structure Visit where
  before : List Http.Request
  poll : Http.Request

def Visit.requests (v : Visit) : List Http.Request := v.before ++ [v.poll]

/-- The replies to the polls. -/
def Setup.polled (s : Setup) (w : World) : List Visit → List Http.Reply
  | [] => []
  | v :: visits =>
    (s.answer v.poll (s.serve w v.before)).1 :: s.polled (s.serve w v.requests) visits

/-- What a widget receives in all. -/
def Setup.received (s : Setup) (w : World) (visits : List Visit) : List Json :=
  (s.polled w visits).flatMap Http.Reply.items

/-- The widget asks each time for what follows the lines it has received. -/
def Setup.Follows (s : Setup) (w : World) (session : String) (visits : List Visit) : Prop :=
  ∀ before v after, visits = before ++ v :: after →
    Polls session (s.received w before).length v.poll

variable {visits : List Visit} {v : Visit}

theorem polled_append_singleton (s : Setup) (w : World) (visits : List Visit) (v : Visit) :
    s.polled w (visits ++ [v]) = s.polled w visits ++
      [(s.answer v.poll (s.serve w (visits.flatMap Visit.requests ++ v.before))).1] := by
  induction visits generalizing w with
  | nil => rfl
  | cons first visits ih =>
    rw [List.cons_append, Setup.polled, ih, List.flatMap_cons, List.append_assoc,
      serve_append s w first.requests, Setup.polled, List.cons_append]

theorem received_append_singleton (s : Setup) (w : World) (visits : List Visit) (v : Visit) :
    s.received w (visits ++ [v]) = s.received w visits ++
      (s.answer v.poll (s.serve w (visits.flatMap Visit.requests ++ v.before))).1.items := by
  rw [Setup.received, polled_append_singleton, List.flatMap_append, List.flatMap_singleton]
  rfl

theorem follows_nil : s.Follows w session [] := fun _ _ _ hsplit => by simp at hsplit

theorem follows_append_singleton : s.Follows w session (visits ++ [v]) ↔
    s.Follows w session visits ∧ Polls session (s.received w visits).length v.poll := by
  refine ⟨fun h => ⟨fun before v' after hsplit => ?_, h visits v [] rfl⟩, ?_⟩
  · exact h before v' (after ++ [v]) (by rw [hsplit, List.append_assoc, List.cons_append])
  · rintro ⟨hvisits, hv⟩ before v' after hsplit
    rcases List.eq_nil_or_concat after with rfl | ⟨rest, last, rfl⟩
    · obtain ⟨rfl, hlast⟩ := List.append_inj' hsplit rfl
      cases hlast
      exact hv
    · rw [List.concat_eq_append, ← List.cons_append, ← List.append_assoc] at hsplit
      exact hvisits before v' rest (List.append_inj' hsplit rfl).1

-- ---------------------------------------------------------------------------
-- Runs
-- ---------------------------------------------------------------------------

variable {settings : Settings} {contents : String → Option String}
  {remote : Outbound.Connector → Outbound.Connector.Remote} {clock : Clock}
  {earlier requests : List Http.Request} {x : Filed}

theorem Filed.contact_of_webChat (h : x.message.platform = .webChat) :
    x.contact = .account .webChat x.message.sender := by
  unfold Filed.contact Message.contact
  rw [h]
  rfl

/-- What a contact wrote on the card of a session was posted by a widget, so that its time can be
written like those of other lines. -/
theorem hasForm_session (h : settings.start contents remote clock = .ok (s, w))
    (hclock : clock.Current) (hkeys : (s.register w requests).NoCollision)
    (hx : x ∈ s.filed w requests) (hplatform : x.message.platform = .webChat)
    (hc : (s.serve w requests).desk.card? x.cardId = some c) :
    ∀ e ∈ c.entries, e.sentAt.HasForm := by
  intro e he
  rcases (servable_serve h requests _ c hc).lines e he with ⟨n, hn⟩ | ⟨hauthor, -⟩
  · rw [hn]
    exact (hclock n).1
  · have hline : e ∈ c.contactLines := List.mem_filter.2 ⟨he, by simp [hauthor]⟩
    rw [recorded_serve h hkeys _ c hc] at hline
    obtain ⟨y, hy, rfl⟩ := List.mem_map.1 hline
    obtain ⟨hy, hid⟩ := List.mem_filter.1 hy
    have hsame : y.contact = .account .webChat x.message.sender :=
      ((kept_serve h hkeys).contact_eq hkeys hy hx (beq_iff_eq.1 hid)).trans
        (Filed.contact_of_webChat hplatform)
    obtain ⟨⟨arrived, hbrings⟩, -⟩ := (files_serve s w requests).brought y hy
    obtain ⟨v, hv⟩ := hbrings.posted (Contact.eq_of_account hsame).1
    show y.message.sentAt.HasForm
    rw [hv, clock_start h]
    exact Inbound.WebChat.hasForm_message (hclock arrived).1 v

/-- From its first message on a session leads to the card where this went. -/
theorem find?_session (h : settings.start contents remote clock = .ok (s, w))
    (hkeys : (s.register w requests).NoCollision) (hx : x ∈ s.filed w requests)
    (hplatform : x.message.platform = .webChat) :
    (s.serve w requests).desk.find? .webChat x.message.sender =
      (s.serve w requests).desk.card? x.cardId := by
  have hsender : x.message.sender ≠ "" :=
    Text.ne_empty_of_not_blank ((files_serve s w requests).brought x hx).2
  have hcontact : Contact.of .webChat x.message.sender = x.contact :=
    (Filed.contact_of_webChat hplatform).symm
  exact (kept_serve h hkeys).find?_eq hx hcontact hsender

theorem mem_filed_append (hx : x ∈ s.filed w requests) (later : List Http.Request) :
    x ∈ s.filed w (requests ++ later) := by
  rw [filed_append]
  exact List.mem_append_left _ hx

/-- One visit more: the widget has all lines then. -/
theorem visit_shows (h : settings.start contents remote clock = .ok (s, w))
    (hclock : clock.Current) (hkeys : (s.register w (requests ++ v.before)).NoCollision)
    (hx : x ∈ s.filed w requests) (hplatform : x.message.platform = .webChat)
    (hc : (s.serve w requests).desk.card? x.cardId = some c) {received : List Json}
    (hshown : c.Shown received) (hpoll : Polls x.message.sender received.length v.poll) :
    let reply := (s.answer v.poll (s.serve w (requests ++ v.before))).1
    reply.status = 200 ∧
      ∃ c', (s.serve w (requests ++ v.requests)).desk.card? x.cardId = some c' ∧
        c'.entries.mapM Entry.toJson? = some (received ++ reply.items) := by
  intro reply
  have hx' := mem_filed_append hx v.before
  have hlater := serve_evolves s (s.serve w requests) v.before
  rw [← serve_append] at hlater
  obtain ⟨c', hc', hgrows⟩ := hlater.cards _ c hc
  have hfound := (find?_session h hkeys hx' hplatform).trans hc'
  have hforms := hasForm_session h hclock hkeys hx' hplatform hc'
  obtain ⟨vs, hvs, hanswer⟩ := hpoll.answer (s := s) hfound hforms
  have hreply : reply = .json 200 (.arr vs) := congrArg Prod.fst hanswer
  have hworld : s.serve w (requests ++ v.requests) = s.serve w (requests ++ v.before) := by
    rw [Visit.requests, ← List.append_assoc, serve_append]
    exact congrArg Prod.snd hanswer
  rw [hreply, hworld]
  exact ⟨rfl, c', hc', (hshown.grows hgrows).rest hvs⟩

/-- Every poll is answered, and after each visit the widget has all lines. -/
theorem visits_show (h : settings.start contents remote clock = .ok (s, w))
    (hclock : clock.Current) (hx : x ∈ s.filed w earlier)
    (hplatform : x.message.platform = .webChat)
    (hfollows : s.Follows (s.serve w earlier) x.message.sender visits)
    (hkeys : (s.register w (earlier ++ visits.flatMap Visit.requests)).NoCollision) :
    (∀ reply ∈ s.polled (s.serve w earlier) visits, reply.status = 200) ∧
      ∃ c, (s.serve w (earlier ++ visits.flatMap Visit.requests)).desk.card? x.cardId = some c ∧
        c.Shown (s.received (s.serve w earlier) visits) ∧
        (visits ≠ [] →
          c.entries.mapM Entry.toJson? = some (s.received (s.serve w earlier) visits)) := by
  induction visits using List.reverseRecOn with
  | nil =>
    rw [List.flatMap_nil, List.append_nil] at hkeys ⊢
    obtain ⟨c, hc, -⟩ := (kept_serve h hkeys).belongs x hx
    exact ⟨by simp [Setup.polled], c, hc, c.shown_nil, fun hne => absurd rfl hne⟩
  | append_singleton visits v ih =>
    obtain ⟨hvisits, hpoll⟩ := follows_append_singleton.1 hfollows
    rw [List.flatMap_append, List.flatMap_singleton, ← List.append_assoc] at hkeys ⊢
    obtain ⟨hstatus, c, hc, hshown, -⟩ := ih hvisits (noCollision_earlier hkeys)
    rw [Visit.requests, ← List.append_assoc] at hkeys
    obtain ⟨hok, c', hc', hall⟩ := visit_shows h hclock (noCollision_earlier hkeys)
      (mem_filed_append hx _) hplatform hc hshown hpoll
    rw [List.append_assoc, serve_append] at hok hall
    rw [received_append_singleton, polled_append_singleton]
    exact ⟨List.forall_mem_append.2 ⟨hstatus, List.forall_mem_singleton.2 hok⟩, c', hc',
      Card.shown_all hall, fun _ => hall⟩

/-- A widget polls a session after its first message was taken in, and asks each time for what
follows the lines it has received. Then every poll is answered, and at the last the widget has
received all lines of the session's card, whatever the service was asked in between. -/
theorem widget_sees_all (h : settings.start contents remote clock = .ok (s, w))
    (hclock : clock.Current) (hx : x ∈ s.filed w earlier)
    (hplatform : x.message.platform = .webChat) {visits : List Visit} (hvisits : visits ≠ [])
    (hfollows : s.Follows (s.serve w earlier) x.message.sender visits)
    (hkeys : (s.register w (earlier ++ visits.flatMap Visit.requests)).NoCollision) :
    (∀ reply ∈ s.polled (s.serve w earlier) visits, reply.status = 200) ∧
      ∃ c, (s.serve w (earlier ++ visits.flatMap Visit.requests)).desk.find? .webChat
          x.message.sender = some c ∧ c.id = x.cardId ∧
        c.entries.mapM Entry.toJson? = some (s.received (s.serve w earlier) visits) := by
  obtain ⟨hstatus, c, hc, -, hall⟩ := visits_show h hclock hx hplatform hfollows hkeys
  have hfound := find?_session h hkeys (mem_filed_append hx _) hplatform
  exact ⟨hstatus, c, hfound.trans hc, Desk.id_of_card? hc, hall hvisits⟩

/-- A poll for the session of the visitor who says hello. -/
def widgetPoll (query : String) : Http.Request where
  method := "GET"
  path := "/webchat/s1/messages"
  query := query
  headers := []
  body := []

theorem polls_widgetPoll {query : String}
    (h : (Routes.afterOf (widgetPoll query)).toOption = some k) :
    Polls "s1" k (widgetPoll query) where
  get := rfl
  path := by
    have hpath : Resource.ofPath? "/webchat/s1/messages" = some (.widgetHistory "s1") := by
      decide +kernel
    have hpart : Http.pathPart? "s1" = some "s1" := by decide +kernel
    exact ⟨"s1", hpath, by rw [Routes.pathName, hpart]⟩
  after := by
    cases hafter : Routes.afterOf (widgetPoll query) with
    | error reply =>
      rw [hafter] at h
      cases h
    | ok n =>
      rw [hafter] at h
      cases h
      rfl

/-- The widget polls after a greeting, and again after one more. -/
def visitorVisits : List Visit :=
  [⟨[], widgetPoll ""⟩, ⟨[greeting], widgetPoll "after=1"⟩]

/-- Each time it receives what was said since. -/
theorem widget_sees_all_visitor :
    lobby.start lobbySeed unreachable dawn = .ok (lobbySetup, lobbyWorld) ∧ Clock.Current dawn ∧
      (∀ reply ∈ lobbySetup.polled (lobbySetup.serve lobbyWorld [greeting]) visitorVisits,
        reply.status = 200) ∧
      ∃ c, (lobbySetup.serve lobbyWorld
          ([greeting] ++ visitorVisits.flatMap Visit.requests)).desk.find? .webChat "s1" = some c ∧
        c.entries.mapM Entry.toJson? =
          some (lobbySetup.received (lobbySetup.serve lobbyWorld [greeting]) visitorVisits) := by
  have hfiled : (lobbySetup.filed lobbyWorld [greeting]).map
      (fun x => (x.message.platform, x.message.sender)) = [(.webChat, "s1")] := by decide +kernel
  obtain ⟨x, hx, hsource⟩ := List.map_eq_singleton_iff.1 hfiled
  obtain ⟨hplatform, hsender⟩ := Prod.mk.inj hsource
  have hfollows : lobbySetup.Follows (lobbySetup.serve lobbyWorld [greeting]) "s1"
      visitorVisits := by
    have hone : (lobbySetup.received (lobbySetup.serve lobbyWorld [greeting])
        [⟨[], widgetPoll ""⟩]).length = 1 := by decide +kernel
    have hfirst : lobbySetup.Follows (lobbySetup.serve lobbyWorld [greeting]) "s1"
        ([] ++ [⟨[], widgetPoll ""⟩]) :=
      follows_append_singleton.2 ⟨follows_nil, polls_widgetPoll (by decide +kernel)⟩
    show lobbySetup.Follows _ "s1" ([⟨[], widgetPoll ""⟩] ++ [⟨[greeting], widgetPoll "after=1"⟩])
    refine follows_append_singleton.2 ⟨hfirst, ?_⟩
    rw [hone]
    exact polls_widgetPoll (by decide +kernel)
  have hkeys : (lobbySetup.register lobbyWorld
      ([greeting] ++ visitorVisits.flatMap Visit.requests)).NoCollision := by
    unfold Register.NoCollision
    decide +kernel
  rw [← hsender] at hfollows
  obtain ⟨hstatus, c, hfound, -, hlines⟩ := widget_sees_all start_lobby dawn_current
    (by rw [hx]; exact List.mem_singleton_self x) hplatform (by decide) hfollows hkeys
  rw [hsender] at hfound
  exact ⟨start_lobby, dawn_current, hstatus, c, hfound, hlines⟩

end Service

end Switchboard
