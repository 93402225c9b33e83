import Switchboard.Proofs.Desk.Upkeep
import Switchboard.Proofs.Service.Story

/-!
# Messages filed in a run

Where the messages of a run went, in their order. A run does nothing to the cards but file these
messages and attend to the cards in between (`files_serve`). So what one message and what attending
keep is kept by every run; that contacts and cards correspond is one such thing (`kept_serve`), and
that the lines of contacts on a card are the messages filed there is another (`recorded_serve`).
-/

namespace Switchboard

open Service

theorem Text.ne_empty_of_not_blank {s : String} (h : isBlank s = false) : s ≠ "" := by
  rintro rfl
  cases h

/-- From one desk to another, with the messages filed in between. -/
inductive Desk.Files (keyword : String) (clock : Clock) : Desk → List Filed → Desk → Prop
  | attends {d d' : Desk} (attended : d.Attended d') : Files keyword clock d [] d'
  | lands {d d' : Desk} {m : Message} {a : Arrival} (arrived n : Nat)
      (brings : Inbound.Brings (clock arrived) m) (named : Text.isBlank m.sender = false)
      (eq : d.receive keyword m (clock n) = .ok (a, d')) : Files keyword clock d [⟨m, a⟩] d'
  | append {d d' d'' : Desk} {new more : List Filed} (first : Files keyword clock d new d')
      (rest : Files keyword clock d' more d'') : Files keyword clock d (new ++ more) d''

namespace Desk.Files

variable {keyword : String} {clock : Clock} {d d' d'' : Desk} {new : List Filed}

theorem refl (d : Desk) : Files keyword clock d [] d := .attends (.refl d)

theorem then_attends (h : Files keyword clock d new d') (ht : d'.Attended d'') :
    Files keyword clock d new d'' := by
  rw [← List.append_nil new]
  exact h.append (.attends ht)

/-- A message is filed only if a webhook brought it and somebody sent it. -/
theorem brought (h : Files keyword clock d new d') :
    ∀ x ∈ new, (∃ arrived, Inbound.Brings (clock arrived) x.message) ∧
      Text.isBlank x.message.sender = false := by
  induction h with
  | attends _ => exact fun _ hx => nomatch hx
  | lands arrived _ brings named _ =>
    intro x hx
    rw [List.mem_singleton.1 hx]
    exact ⟨⟨arrived, brings⟩, named⟩
  | append _ _ ih ih' => exact List.forall_mem_append.2 ⟨ih, ih'⟩

end Desk.Files

namespace Register

variable {keyword : String} {clock : Clock} {r : Register} {d d' : Desk} {new more : List Filed}

/-- The register when some messages more are filed. -/
def after (r : Register) (new : List Filed) (d : Desk) : Register :=
  ⟨d, r.filed ++ new, r.hashed ++ new.map Filed.key⟩

theorem after_append (r : Register) (new more : List Filed) (d d' : Desk) :
    (r.after new d).after more d' = r.after (new ++ more) d' := by
  simp [after, List.append_assoc]

theorem NoCollision.of_after (h : (r.after (new ++ more) d').NoCollision) :
    (r.after new d).NoCollision := by
  rw [← after_append r new more d d'] at h
  exact h.mono fun _ hkey => List.mem_append_left _ hkey

theorem file_of_receive {m : Message} {a : Arrival} {now : Time.Instant}
    (h : r.desk.receive keyword m now = .ok (a, d)) :
    r.file keyword m now =
      ⟨d, r.filed ++ [⟨m, a⟩], r.hashed ++ (r.desk.hashedKey? m).toList⟩ := by
  rw [file, h]

/-- The key of a message may be one that an id is made of, and no other is. -/
theorem hashed_of_receive {m : Message} {a : Arrival} {now : Time.Instant}
    (h : r.desk.receive keyword m now = .ok (a, d)) :
    ∀ key ∈ (r.file keyword m now).hashed, key ∈ (r.after [⟨m, a⟩] d).hashed := by
  rw [file_of_receive h]
  refine fun key hkey => List.mem_append.2 ((List.mem_append.1 hkey).imp_right fun hkey => ?_)
  unfold Desk.hashedKey? at hkey
  split at hkey
  · cases hkey
  · exact hkey

theorem Kept.receive (h : r.Kept) {m : Message} {a : Arrival} {now : Time.Instant}
    (hreceive : r.desk.receive keyword m now = .ok (a, d))
    (hkeys : (r.after [⟨m, a⟩] d).NoCollision) : (r.after [⟨m, a⟩] d).Kept := by
  have hsub := hashed_of_receive hreceive
  have hkept := (h.file (hkeys.mono hsub)).mono hsub
  rw [file_of_receive hreceive] at hkept
  exact hkept

theorem Kept.files (h : r.Kept) (hfiles : Desk.Files keyword clock r.desk new d)
    (hkeys : (r.after new d).NoCollision) : (r.after new d).Kept := by
  generalize hd : r.desk = start at hfiles
  induction hfiles generalizing r with
  | attends attended =>
    have hkept := h.tended (hd ▸ attended.tended)
    simpa [after] using hkept
  | lands _ _ _ _ eq => exact h.receive (hd ▸ eq) hkeys
  | append _ _ ih ih' =>
    have hfirst := ih h hkeys.of_after hd
    rw [← after_append] at hkeys ⊢
    exact ih' hfirst hkeys rfl

theorem Recorded.files (hr : r.Recorded) (h : r.Kept)
    (hfiles : Desk.Files keyword clock r.desk new d) (hkeys : (r.after new d).NoCollision) :
    (r.after new d).Recorded := by
  generalize hd : r.desk = start at hfiles
  induction hfiles generalizing r with
  | attends attended =>
    have hrecorded := hr.tended (hd ▸ attended.tended)
    simpa [after, Recorded] using hrecorded
  | lands _ _ _ _ eq =>
    rw [← hd] at eq
    have hrecorded := hr.file h (hkeys.mono (hashed_of_receive eq))
    rw [file_of_receive eq] at hrecorded
    exact hrecorded
  | append first _ ih ih' =>
    have hfirst := h.files (hd ▸ first) hkeys.of_after
    have hrecorded := ih hr h hkeys.of_after hd
    rw [← after_append] at hkeys ⊢
    exact ih' hrecorded hfirst hkeys rfl

end Register

namespace World

variable {w w' : World} {s : Setup} {m : Message}

-- ---------------------------------------------------------------------------
-- What attends to the cards
-- ---------------------------------------------------------------------------

theorem attended_actAll {t : Turn} {c : Card} (h : w.desk.card? t.card.id = some c) (stage : Stage)
    (as : List Action) : w.desk.Attended (w.actAll stage t as).2.desk := by
  induction as generalizing w c with
  | nil => exact .refl w.desk
  | cons a as ih =>
    have hact : w.desk.Attended (w.act stage t a).2.desk := by
      rw [act_writes h]
      refine Desk.attended_withCard ?_ (Action.write_id ..) (Action.attended_write ..)
      rw [Desk.id_of_card? h, h]
    cases ha : (w.act stage t a).1 with
    | ok _ =>
      rw [actAll_cons_ok ha]
      exact hact.trans (ih (card?_act h))
    | error e =>
      rw [actAll_cons_error ha]
      exact hact

theorem attended_runTurn {t : Turn} {c : Card} (h : w.desk.card? t.card.id = some c) (stage : Stage)
    (rules : TurnRules) (introductions : List Introduction) :
    w.desk.Attended (w.runTurn stage rules introductions t).2.desk := by
  rw [runTurn_desk]
  exact attended_actAll (w := w.tick) h stage _

theorem attended_markAllRead (w : World) (s : Setup) (p : Platform) (senders : List String) :
    w.desk.Attended (w.markAllRead s p senders).2.desk := by
  induction senders generalizing w with
  | nil => exact .refl w.desk
  | cons sender senders ih =>
    have h : w.desk.Attended (w.onDesk s.clock fun d now => d.markRead p sender now).2.desk := by
      unfold onDesk
      split
      next found d hd => exact Desk.attended_markRead hd
      next => exact .refl w.desk
    unfold markAllRead
    split
    next e w' hw => rw [hw] at h; exact h
    next found w' hw =>
      rw [hw] at h
      have hrest := h.trans (ih w')
      split <;> rename_i hms <;> rw [hms] at hrest <;> exact hrest

-- ---------------------------------------------------------------------------
-- Messages
-- ---------------------------------------------------------------------------

/-- A message that is taken in lands, and then a bot may attend to its card. -/
theorem ingest_ok {report : Report} (h : w.ingest s m = (.ok report, w')) :
    Text.isBlank m.sender = false ∧ ∃ d,
      w.desk.receive s.laneKeyword m (s.clock w.readings) =
        .ok (⟨report.cardId, report.isNew⟩, d) ∧ d.Attended w'.desk := by
  have hnamed : Text.isBlank m.sender = false := by
    cases hblank : Text.isBlank m.sender with
    | false => rfl
    | true => simp [ingest, hblank] at h
  have hcases := w.ingest_cases s m
  rw [h] at hcases
  refine ⟨hnamed, ?_⟩
  cases hcases with
  | unanswered _ lands => exact ⟨_, lands.receive, .refl _⟩
  | @answered _ landed _ p _ _ lands plays rest =>
    refine ⟨_, lands.receive, ?_⟩
    have hturn : p.world.desk.Attended (p.after s).desk := attended_runTurn plays.stored _ _ _
    rw [plays.world] at hturn
    rw [rest.desk]
    exact hturn

theorem ingest_error {f : Fault} (h : w.ingest s m = (.error f, w')) : w'.desk = w.desk := by
  have hcases := w.ingest_cases s m
  rw [h] at hcases
  cases hcases with
  | refused _ rest => exact rest.desk

/-- The messages that are filed when some are taken in one after the other, with where they went. -/
def filings (w : World) (s : Setup) : List Message → List Filed
  | [] => []
  | m :: ms =>
    match w.ingest s m with
    | (.ok report, w) => ⟨m, ⟨report.cardId, report.isNew⟩⟩ :: w.filings s ms
    | (.error (.badRequest _), w) => w.filings s ms
    | (.error _, _) => []

theorem files_ingestAll {ms : List Message} {arrived : Nat}
    (hms : ∀ m ∈ ms, Inbound.Brings (s.clock arrived) m) :
    Desk.Files s.laneKeyword s.clock w.desk (w.filings s ms) (w.ingestAll s ms).2.desk := by
  induction ms generalizing w with
  | nil => exact .refl w.desk
  | cons m ms ih =>
    obtain ⟨hm, hms⟩ := List.forall_mem_cons.1 hms
    unfold filings ingestAll
    cases hw : w.ingest s m with
    | mk result w' =>
      cases result with
      | ok report =>
        obtain ⟨hnamed, d, hreceive, hattended⟩ := ingest_ok hw
        have hone : Desk.Files s.laneKeyword s.clock w.desk [⟨m, _⟩] w'.desk :=
          (Desk.Files.lands arrived w.readings hm hnamed hreceive).then_attends hattended
        have hall := hone.append (ih (w := w') hms)
        dsimp only
        split <;> rename_i he <;> rw [he] at hall <;> exact hall
      | error f =>
        have hdesk := ingest_error hw
        cases f with
        | badRequest detail =>
          dsimp only
          rw [← hdesk]
          exact ih hms
        | _ =>
          dsimp only
          rw [hdesk]
          exact .refl w.desk

end World

namespace Service

open Routes

-- ---------------------------------------------------------------------------
-- Requests
-- ---------------------------------------------------------------------------

/-- The messages in a payload; one that is refused has none. -/
def messagesIn {ε : Type} (payload : Except ε Json) (read : Json → List Message) : List Message :=
  match payload with
  | .error _ => []
  | .ok v => read v

/-- The messages that a request for a resource brings at a time. -/
def Setup.brought (s : Setup) (r : Http.Request) (now : Time.Instant) :
    Resource → String → List Message
  | .whatsAppHook, "POST" =>
    messagesIn (delivery (checkSignature s.secrets.whatsAppAppSecret r) r)
      (Inbound.WhatsApp.messages now)
  | .metaHook, "POST" =>
    messagesIn (delivery (checkSignature s.secrets.metaAppSecret r) r) (Inbound.Meta.messages now)
  | .telegramHook, "POST" =>
    messagesIn (delivery (checkToken s.secrets.telegramToken r) r) fun v =>
      [Inbound.Telegram.message now v]
  | .xHook, "POST" => messagesIn (jsonBody r) (Inbound.X.messages now)
  | .tikTokHook, "POST" => messagesIn (jsonBody r) fun v => [Inbound.TikTok.message now v]
  | .widgetPosts, "POST" => messagesIn (jsonBody r) fun v => [Inbound.WebChat.message now v]
  | _, _ => []

/-- The messages that are filed on a request, with where they went. -/
def Setup.filings (s : Setup) (r : Http.Request) (w : World) : List Filed :=
  match Resource.ofPath? r.path with
  | none => []
  | some resource =>
    let method := if r.method == "HEAD" then "GET" else r.method
    w.tick.filings s (s.brought r (s.clock w.readings) resource method)

/-- The messages that are filed in a run, in their order, with where they went. -/
def Setup.filed (s : Setup) (w : World) : List Http.Request → List Filed
  | [] => []
  | r :: requests => s.filings r w ++ s.filed (s.answer r w).2 requests

/-- The register after a run. Every message that was filed has its key in it. -/
def Setup.register (s : Setup) (w : World) (requests : List Http.Request) : Register :=
  ⟨(s.serve w requests).desk, s.filed w requests, (s.filed w requests).map Filed.key⟩

/-- A handler that takes in the messages that are brought when it begins, and otherwise attends to
the cards. -/
def Handler.Takes (s : Setup) (messages : Time.Instant → List Message) (handle : Handler) : Prop :=
  ∀ w : World,
    (w.tick.ingestAll s (messages (s.clock w.readings))).2.desk.Attended (handle w).2.desk

variable (s : Setup) (r : Http.Request) {w : World}

theorem brings_brought {now : Time.Instant} {resource : Resource} {method : String} :
    ∀ m ∈ s.brought r now resource method, Inbound.Brings now m := by
  have hin : ∀ {ε : Type} {payload : Except ε Json} {read : Json → List Message},
      (∀ v, ∀ m ∈ read v, Inbound.Brings now m) →
        ∀ m ∈ messagesIn payload read, Inbound.Brings now m := by
    intro ε payload read h
    unfold messagesIn
    split
    · simp
    · exact h _
  unfold Setup.brought
  split
  · exact hin fun v m hm => .whatsApp hm
  · exact hin fun v m hm => .page hm
  · exact hin fun v => List.forall_mem_singleton.2 (.telegram v)
  · exact hin fun v m hm => .x hm
  · exact hin fun v => List.forall_mem_singleton.2 (.tikTok v)
  · exact hin fun v => List.forall_mem_singleton.2 (.webChat v)
  · simp

theorem takeIn_takes (messages : Time.Instant → List Message) (done : Http.Reply) :
    Handler.Takes s messages (takeIn s messages done) := by
  intro w
  unfold takeIn
  split <;> rename_i hw <;> rw [hw] <;> exact .refl _

theorem whatsApp_takes : Handler.Takes s
    (fun now => messagesIn (delivery (checkSignature s.secrets.whatsAppAppSecret r) r)
      (Inbound.WhatsApp.messages now)) (whatsApp s r) := by
  intro w
  unfold whatsApp
  cases delivery (checkSignature s.secrets.whatsAppAppSecret r) r with
  | error f => exact .refl w.desk
  | ok v =>
    simp only [messagesIn]
    split <;> rename_i hw <;> rw [hw]
    · exact .refl _
    next reports w' =>
      have hread := w'.attended_markAllRead s .whatsApp (Inbound.WhatsApp.readers v)
      split <;> rename_i he <;> rw [he] at hread <;> exact hread

theorem metaDelivery_takes : Handler.Takes s
    (fun now => messagesIn (delivery (checkSignature s.secrets.metaAppSecret r) r)
      (Inbound.Meta.messages now)) (metaDelivery s r) := by
  intro w
  unfold metaDelivery
  cases delivery (checkSignature s.secrets.metaAppSecret r) r with
  | error f => exact .refl w.desk
  | ok v => exact takeIn_takes s (fun now => Inbound.Meta.messages now v) _ w

theorem telegram_takes : Handler.Takes s
    (fun now => messagesIn (delivery (checkToken s.secrets.telegramToken r) r) fun v =>
      [Inbound.Telegram.message now v]) (telegram s r) := by
  intro w
  unfold telegram
  cases delivery (checkToken s.secrets.telegramToken r) r with
  | error f => exact .refl w.desk
  | ok v => exact takeIn_takes s (fun now => [Inbound.Telegram.message now v]) _ w

theorem xDelivery_takes : Handler.Takes s
    (fun now => messagesIn (jsonBody r) (Inbound.X.messages now)) (xDelivery s r) := by
  intro w
  unfold xDelivery
  cases jsonBody r with
  | error reply => exact .refl w.desk
  | ok v => exact takeIn_takes s (fun now => Inbound.X.messages now v) _ w

theorem tikTok_takes : Handler.Takes s
    (fun now => messagesIn (jsonBody r) fun v => [Inbound.TikTok.message now v]) (tikTok s r) := by
  intro w
  unfold tikTok
  cases jsonBody r with
  | error reply => exact .refl w.desk
  | ok v => exact takeIn_takes s (fun now => [Inbound.TikTok.message now v]) _ w

theorem widgetPost_takes : Handler.Takes s
    (fun now => messagesIn (jsonBody r) fun v => [Inbound.WebChat.message now v])
      (widgetPost s r) := by
  intro w
  unfold widgetPost
  cases jsonBody r with
  | error reply => exact .refl w.desk
  | ok v =>
    simp only [messagesIn]
    rw [ingestAll_singleton]
    split <;> rename_i hw <;> rw [hw] <;> exact .refl _

theorem operatorSend_takes (id : String) :
    Handler.Takes s (fun _ => []) (operatorSend s id r) := by
  intro w
  show w.desk.Attended (operatorSend s id r w).2.desk
  unfold operatorSend
  split
  next => exact .refl w.desk
  next id m _ =>
    dsimp only
    split
    next => exact .refl w.desk
    next d _ =>
      have h : w.desk.Attended
          (w.attempt d.channel d.platform (.text d.recipient (Text.trim m.text))).2.desk :=
        .refl w.desk
      split
      next e w' hw =>
        rw [hw] at h
        exact h
      next receipt w' hw =>
        rw [hw] at h
        have hline : w'.desk.Attended (w'.onDesk s.clock fun d now =>
            d.appendOutbound id (.agent m.agentId) (Text.trim m.text) now).2.desk := by
          unfold World.onDesk
          split
          next c d hd => exact Desk.attended_appendOutbound (by rintro ⟨⟩) hd
          next => exact .refl w'.desk
        have hall := h.trans hline
        split <;> rename_i he <;> rw [he] at hall <;> exact hall

theorem chooseBot_takes : Handler.Takes s (fun _ => []) (chooseBot r) := by
  intro w
  show w.desk.Attended (chooseBot r w).2.desk
  unfold chooseBot
  split
  · exact .refl w.desk
  · dsimp only
    split <;> exact .refl w.desk

theorem handler?_takes {resource : Resource} {method : String} {handle : Handler}
    (h : handler? s r resource method = some handle) :
    Handler.Takes s (fun now => s.brought r now resource method) handle := by
  unfold handler? at h
  dsimp only at h
  split at h <;> cases h
  · exact fun w => .refl w.desk
  · exact fun w => .refl w.desk
  · exact fun w => .refl w.desk
  · exact whatsApp_takes s r
  · exact metaDelivery_takes s r
  · exact telegram_takes s r
  · exact xDelivery_takes s r
  · exact tikTok_takes s r
  · exact widgetPost_takes s r
  · exact fun w => .refl w.desk
  · exact fun w => .refl w.desk
  · exact operatorSend_takes s r _
  · exact chooseBot_takes s r

theorem brought_of_no_handler {now : Time.Instant} {resource : Resource} {method : String}
    (h : handler? s r resource method = none) : s.brought r now resource method = [] := by
  unfold Setup.brought
  split <;> first | rfl | cases h

theorem files_answer (w : World) :
    Desk.Files s.laneKeyword s.clock w.desk (s.filings r w) (s.answer r w).2.desk := by
  unfold Setup.filings Setup.answer
  cases Resource.ofPath? r.path with
  | none => exact .refl w.desk
  | some resource =>
    dsimp only
    generalize (if r.method == "HEAD" then "GET" else r.method) = method
    cases h : handler? s r resource method with
    | none =>
      rw [brought_of_no_handler s r h]
      exact .refl w.desk
    | some handle =>
      have hbrings : ∀ m ∈ s.brought r (s.clock w.readings) resource method,
          Inbound.Brings (s.clock w.readings) m := brings_brought s r
      exact (World.files_ingestAll (w := w.tick) hbrings).then_attends (handler?_takes s r h w)

-- ---------------------------------------------------------------------------
-- Runs
-- ---------------------------------------------------------------------------

/-- A run files its messages and attends to the cards, and nothing else befalls these. -/
theorem files_serve (w : World) (requests : List Http.Request) :
    Desk.Files s.laneKeyword s.clock w.desk (s.filed w requests) (s.serve w requests).desk := by
  induction requests generalizing w with
  | nil => exact .refl w.desk
  | cons r requests ih => exact (files_answer s r w).append (ih _)

theorem filed_append (w : World) (earlier later : List Http.Request) :
    s.filed w (earlier ++ later) = s.filed w earlier ++ s.filed (s.serve w earlier) later := by
  induction earlier generalizing w with
  | nil => rfl
  | cons r earlier ih =>
    rw [List.cons_append, Setup.filed, ih, ← List.append_assoc]
    rfl

variable {s} {settings : Settings} {contents : String → Option String}
  {remote : Outbound.Connector → Outbound.Connector.Remote} {clock : Clock}
  {requests later : List Http.Request}

theorem noCollision_earlier (h : (s.register w (requests ++ later)).NoCollision) :
    (s.register w requests).NoCollision := by
  refine h.mono fun key hkey => ?_
  rw [Setup.register, filed_append, List.map_append]
  exact List.mem_append_left _ hkey

theorem kept_start (h : settings.start contents remote clock = .ok (s, w)) :
    Register.Kept ⟨w.desk, [], []⟩ where
  named _ hx := nomatch hx
  belongs _ hx := nomatch hx
  owned id c hc := by
    rw [Desk.card?, cards_plant (start_ok h).1] at hc
    cases hc
  together _ hx := nomatch hx
  firsts before x after hsplit := by simp at hsplit

theorem kept_serve (h : settings.start contents remote clock = .ok (s, w))
    (hkeys : (s.register w requests).NoCollision) : (s.register w requests).Kept :=
  (kept_start h).files (files_serve s w requests) hkeys

theorem recorded_serve (h : settings.start contents remote clock = .ok (s, w))
    (hkeys : (s.register w requests).NoCollision) : (s.register w requests).Recorded := by
  have hnone : Register.Recorded ⟨w.desk, [], []⟩ := by
    intro id c hc
    rw [Desk.card?, cards_plant (start_ok h).1] at hc
    cases hc
  exact hnone.files (kept_start h) (files_serve s w requests) hkeys

end Service

end Switchboard
