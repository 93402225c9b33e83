import Switchboard.Proofs.Http.Paths
import Switchboard.Proofs.Service.Filings

/-!
# Replies of operators

A card tells the platform and the address of the message that was last filed on it (`Desk.Tells`),
over any run. So an operator's reply goes where the contact last wrote from, and is written on the
card if and only if it was sent (`operator_reply`).
-/

namespace Switchboard

open Service

/-- The message that was last filed on a card. -/
def lastOn? (filed : List Filed) (id : String) : Option Message :=
  (filed.filter fun x => x.cardId == id).getLast?.map Filed.message

theorem lastOn?_append_singleton (filed : List Filed) (x : Filed) (id : String) :
    lastOn? (filed ++ [x]) id = if x.cardId = id then some x.message else lastOn? filed id := by
  unfold lastOn?
  rw [List.filter_append]
  by_cases hid : x.cardId = id
  · simp [hid]
  · simp [hid]

namespace Desk

-- ---------------------------------------------------------------------------
-- The last message of a card
-- ---------------------------------------------------------------------------

/-- Every card tells where the message came from that was last filed on it. -/
def Tells (filed : List Filed) (d : Desk) : Prop :=
  ∀ id c, d.card? id = some c → ∃ m, lastOn? filed id = some m ∧
    c.lastPlatform = some m.platform ∧ c.addresses m.platform = some m.sender

variable {keyword : String} {clock : Clock} {d d' : Desk} {filed new : List Filed} {m : Message}
  {a : Arrival} {now : Time.Instant}

theorem Tells.attended (h : d.Tells filed) (hattended : d.Attended d') : d'.Tells filed := by
  intro id c' hc'
  obtain ⟨c, hc, hchange⟩ := hattended.before hc'
  obtain ⟨m, hlast, hplatform, haddress⟩ := h id c hc
  refine ⟨m, hlast, hchange.lastPlatform.trans hplatform, ?_⟩
  rw [hchange.addresses, haddress]

theorem Tells.receive (h : d.Tells filed) (hreceive : d.receive keyword m now = .ok (a, d')) :
    d'.Tells (filed ++ [⟨m, a⟩]) := by
  obtain ⟨c, hid, rfl, -⟩ := receive_landed hreceive
  intro id x hx
  rw [card?_withCard, Message.addTo_id, hid] at hx
  rw [lastOn?_append_singleton]
  show ∃ m', (if a.cardId = id then some m else _) = some m' ∧ _
  split at hx
  next hsame =>
    cases hx
    rw [if_pos hsame]
    refine ⟨m, rfl, rfl, ?_⟩
    rw [Card.addresses_addTo, PerPlatform.set_self]
  next hother =>
    rw [if_neg hother]
    exact h id x hx

theorem Tells.files (h : d.Tells filed) (hfiles : Files keyword clock d new d') :
    d'.Tells (filed ++ new) := by
  induction hfiles generalizing filed with
  | attends hattended =>
    rw [List.append_nil]
    exact h.attended hattended
  | lands _ _ _ _ hreceive => exact h.receive hreceive
  | append _ _ ih ih' =>
    rw [← List.append_assoc]
    exact ih' (ih h)

end Desk

namespace Service

open Routes

variable {s : Setup} {r : Http.Request} {w : World} {filed : List Filed} {id text segment : String}
  {m : Message} {c : Card} {reply : OperatorMessage}

theorem refusal_of_fault (f : Fault) : 400 ≤ f.reply.status := by
  cases f with
  | desk e => cases e <;> simp [Fault.reply, Fault.status, Http.Reply.json]
  | _ => simp [Fault.reply, Fault.status, Http.Reply.json]

-- ---------------------------------------------------------------------------
-- How a reply is delivered
-- ---------------------------------------------------------------------------

/-- The contact of a card is reached where they last wrote from. -/
theorem deliveryOf_of_tells (hplatform : c.lastPlatform = some m.platform)
    (haddress : c.addresses m.platform = some m.sender) :
    deliveryOf s c = match s.channels m.platform with
      | none => .error (.badRequest ("no adapter registered for " ++ m.platform.name))
      | some channel => .ok ⟨m.platform, channel, m.sender⟩ := by
  have hrecipient : c.recipient? m.platform = some m.sender := by
    simp only [Card.recipient?, haddress]
  cases hchannel : s.channels m.platform <;>
    simp only [deliveryOf, hplatform, hrecipient, hchannel]

theorem operatorSend_of_fault {f : Fault}
    (hrequest : operatorRequest segment r = .ok (id, reply))
    (hprepare : prepare s w id (Text.trim reply.text) = .error f) :
    operatorSend s segment r w = (fail f, w) := by
  simp only [operatorSend, hrequest, hprepare]

variable {d : Delivery}

theorem operatorSend_of_refused {e : DeliveryError}
    (hrequest : operatorRequest segment r = .ok (id, reply))
    (hprepare : prepare s w id (Text.trim reply.text) = .ok d)
    (hcall : d.channel (w.callsOn d.platform) (.text d.recipient (Text.trim reply.text)) =
      .error e) :
    operatorSend s segment r w = (fail (.delivery e),
      { w with attempts := w.attempts ++
          [Attempt.mk d.platform (.text d.recipient (Text.trim reply.text)) false] : World }.count
        (.deliveryFailed d.platform)) := by
  simp only [operatorSend, hrequest, hprepare, World.attempt, hcall]
  rfl

theorem operatorSend_of_sent {receipt : Receipt} {c' : Card}
    (hrequest : operatorRequest segment r = .ok (id, reply))
    (hprepare : prepare s w id (Text.trim reply.text) = .ok d)
    (hcall : d.channel (w.callsOn d.platform) (.text d.recipient (Text.trim reply.text)) =
      .ok receipt)
    (hline : w.desk.appendOutbound id (.agent reply.agentId) (Text.trim reply.text)
      (s.clock w.readings) = .ok (c', w.desk.withCard c')) :
    operatorSend s segment r w = (.ok (.document c'.toJson?),
      { w.tick with
        desk := w.desk.withCard c'
        attempts := w.attempts ++
          [⟨d.platform, .text d.recipient (Text.trim reply.text), true⟩] }) := by
  simp only [operatorSend, hrequest, hprepare, World.attempt, hcall, World.onDesk]
  rw [hline]
  rfl

-- ---------------------------------------------------------------------------
-- A run of the service
-- ---------------------------------------------------------------------------

/-- A reply that cannot be sent: it says nothing, there is no such card, or its contact is not
reached where they last wrote from. -/
inductive Undeliverable (s : Setup) (w : World) (filed : List Filed) (id text : String) : Prop
  | blank (empty : text = "")
  | unknown (vacant : w.desk.card? id = none)
  | unreachable {m : Message} (last : lastOn? filed id = some m)
      (closed : s.channels m.platform = none)
  | refused {m : Message} {channel : Channel} {e : DeliveryError} (last : lastOn? filed id = some m)
      (reached : s.channels m.platform = some channel)
      (fails : channel (w.callsOn m.platform) (.text m.sender text) = .error e)

/-- What is left by a reply that was not sent. -/
structure Unsent (w : World) (answer : Http.Reply) (after : World) : Prop where
  refused : 400 ≤ answer.status
  desk : after.desk = w.desk
  attempts : ∃ made, after.attempts = w.attempts ++ made ∧ ∀ a ∈ made, a.accepted = false

/-- What is left by a reply that was sent to the sender of a message: one call, and one line. -/
structure Sent (s : Setup) (w : World) (id : String) (m : Message) (text : String)
    (agentId : Option String) (answer : Http.Reply) (after : World) : Prop where
  carried : ∃ channel receipt, s.channels m.platform = some channel ∧
    channel (w.callsOn m.platform) (.text m.sender text) = .ok receipt
  attempts : after.attempts = w.attempts ++ [⟨m.platform, .text m.sender text, true⟩]
  card : ∃ c c' e, w.desk.card? id = some c ∧ after.desk.card? id = some c' ∧
    c'.entries = c.entries ++ [e] ∧ e.text = text ∧ e.author = .agent agentId ∧
    e.platform = some m.platform ∧ answer = .document c'.toJson?
  others : ∀ other, other ≠ id → after.desk.card? other = w.desk.card? other

theorem Sent.not_undeliverable {agentId : Option String} {answer : Http.Reply} {after : World}
    (h : Sent s w id m text agentId answer after) (hlast : lastOn? filed id = some m)
    (hnonempty : text ≠ "") : ¬ Undeliverable s w filed id text := by
  obtain ⟨channel, receipt, hchannel, hcall⟩ := h.carried
  intro hundeliverable
  cases hundeliverable with
  | blank empty => exact hnonempty empty
  | unknown vacant =>
    obtain ⟨c, -, -, hc, -⟩ := h.card
    rw [vacant] at hc
    cases hc
  | unreachable last closed =>
    cases hlast.symm.trans last
    rw [hchannel] at closed
    cases closed
  | refused last reached fails =>
    cases hlast.symm.trans last
    cases hchannel.symm.trans reached
    rw [hcall] at fails
    cases fails

/-- A reply that the channel takes is written on the card. -/
theorem operatorSend_sent {channel : Channel} {receipt : Receipt}
    (hrequest : operatorRequest segment r = .ok (id, reply))
    (hprepare : prepare s w id (Text.trim reply.text) = .ok ⟨m.platform, channel, m.sender⟩)
    (hplatform : c.lastPlatform = some m.platform) (hchannel : s.channels m.platform = some channel)
    (hcall : channel (w.callsOn m.platform) (.text m.sender (Text.trim reply.text)) = .ok receipt)
    (hc : w.desk.card? id = some c) :
    Sent s w id m (Text.trim reply.text) reply.agentId
      (Handler.reply (operatorSend s segment r) w) (operatorSend s segment r w).2 := by
  obtain ⟨e, he⟩ : ∃ e, e = Desk.outboundEntry c (.agent reply.agentId) (Text.trim reply.text)
    (s.clock w.readings) := ⟨_, rfl⟩
  obtain ⟨c', hc'⟩ : ∃ c', c' = (c.append e).touch (s.clock w.readings) := ⟨_, rfl⟩
  have hline : w.desk.appendOutbound id (.agent reply.agentId) (Text.trim reply.text)
      (s.clock w.readings) = .ok (c', w.desk.withCard c') := by
    rw [hc', he]
    exact Desk.appendOutbound_of_card? hc ..
  have hid : c'.id = id := by
    rw [hc', ← Desk.id_of_card? hc]
    rfl
  unfold Handler.reply
  rw [operatorSend_of_sent hrequest hprepare hcall hline]
  refine ⟨⟨channel, receipt, hchannel, hcall⟩, rfl, ⟨c, c', e, hc, ?_, ?_, ?_, ?_, ?_, rfl⟩, ?_⟩
  · exact (Desk.card?_withCard ..).trans (if_pos hid)
  · rw [hc']
    rfl
  · rw [he]
    rfl
  · rw [he]
    rfl
  · rw [he]
    exact hplatform
  · intro other hother
    exact (Desk.card?_withCard ..).trans (if_neg fun h => hother (h.symm.trans hid))

/-- What becomes of a reply, on a desk whose cards tell where their contacts last wrote from. -/
theorem operatorSend_cases (htells : w.desk.Tells filed)
    (hrequest : operatorRequest segment r = .ok (id, reply)) :
    (Undeliverable s w filed id (Text.trim reply.text) ∧
      Unsent w (Handler.reply (operatorSend s segment r) w) (operatorSend s segment r w).2) ∨
    ∃ m, lastOn? filed id = some m ∧ Text.trim reply.text ≠ "" ∧
      Sent s w id m (Text.trim reply.text) reply.agentId
        (Handler.reply (operatorSend s segment r) w) (operatorSend s segment r w).2 := by
  have hfault : ∀ f, prepare s w id (Text.trim reply.text) = .error f →
      Unsent w (Handler.reply (operatorSend s segment r) w) (operatorSend s segment r w).2 := by
    intro f hf
    unfold Handler.reply
    rw [operatorSend_of_fault hrequest hf]
    exact ⟨refusal_of_fault f, rfl, [], by simp⟩
  by_cases hempty : Text.trim reply.text = ""
  · refine .inl ⟨.blank hempty, hfault (.badRequest "text is required") ?_⟩
    simp [prepare, hempty]
  have hnonempty : (Text.trim reply.text).isEmpty = false := by simpa using hempty
  cases hc : w.desk.card? id with
  | none =>
    refine .inl ⟨.unknown hc, hfault (.notFound ("card " ++ id)) ?_⟩
    simp [prepare, hnonempty, hc]
  | some c =>
    obtain ⟨m, hlast, hplatform, haddress⟩ := htells id c hc
    have hprepare : prepare s w id (Text.trim reply.text) = deliveryOf s c := by
      simp [prepare, hnonempty, hc]
    rw [deliveryOf_of_tells hplatform haddress] at hprepare
    cases hchannel : s.channels m.platform with
    | none =>
      rw [hchannel] at hprepare
      exact .inl ⟨.unreachable hlast hchannel, hfault _ hprepare⟩
    | some channel =>
      rw [hchannel] at hprepare
      cases hcall : channel (w.callsOn m.platform) (.text m.sender (Text.trim reply.text)) with
      | error e =>
        refine .inl ⟨.refused hlast hchannel hcall, ?_⟩
        unfold Handler.reply
        rw [operatorSend_of_refused hrequest hprepare hcall]
        exact ⟨refusal_of_fault _, rfl, _, rfl, by simp⟩
      | ok receipt =>
        refine .inr ⟨m, hlast, hempty, ?_⟩
        exact operatorSend_sent hrequest hprepare hplatform hchannel hcall hc

variable {settings : Settings} {contents : String → Option String}
  {remote : Outbound.Connector → Outbound.Connector.Remote} {clock : Clock}

theorem tells_serve (h : settings.start contents remote clock = .ok (s, w))
    (requests : List Http.Request) : (s.serve w requests).desk.Tells (s.filed w requests) := by
  have hnone : w.desk.Tells [] := by
    intro id c hc
    rw [Desk.card?, cards_plant (start_ok h).1] at hc
    cases hc
  exact hnone.files (files_serve s w requests)

/-- An operator's reply that cannot be sent is refused, and is not written on any card. Any other is
sent once, in a single call, to where the last message on the card came from, and adds one line to
the card. -/
theorem operator_reply (h : settings.start contents remote clock = .ok (s, w))
    (earlier : List Http.Request) (hpost : r.method = "POST")
    (hpath : Resource.ofPath? r.path = some (.cardMessages segment))
    (hrequest : operatorRequest segment r = .ok (id, reply)) :
    let now := s.serve w earlier
    let filed := s.filed w earlier
    let text := Text.trim reply.text
    (Undeliverable s now filed id text → Unsent now (s.answer r now).1 (s.answer r now).2) ∧
      (¬ Undeliverable s now filed id text → ∃ m, lastOn? filed id = some m ∧
        Sent s now id m text reply.agentId (s.answer r now).1 (s.answer r now).2) := by
  intro now filed text
  rw [answer_of_handler? hpath hpost (by decide) rfl]
  rcases operatorSend_cases (s := s) (tells_serve h earlier) hrequest with
    ⟨hundeliverable, hunsent⟩ | ⟨m, hlast, hnonempty, hsent⟩
  · exact ⟨fun _ => hunsent, fun hdeliverable => absurd hundeliverable hdeliverable⟩
  · exact ⟨fun hundeliverable => (hsent.not_undeliverable hlast hnonempty hundeliverable).elim,
      fun _ => ⟨m, hlast, hsent⟩⟩

/-- The card of the visitor who says hello. -/
def visitorCardId : String := "307b42ff-fa2b-5d4c-ac28-543983351cd3"

/-- An operator's reply to that visitor. -/
def welcome : Http.Request where
  method := "POST"
  path := messagesPath visitorCardId
  query := ""
  headers := [("content-type", "application/json")]
  body := Text.utf8 "\x7b\"text\": \" Buenas \", \"agentId\": \"ana\"\x7d"

theorem textsBody_of_read {fields : List Json.TextField} {texts : Json.Texts}
    (hjson : isJson r = true) (hutf8 : (Text.ofUtf8? r.body).isSome = true)
    (hread : (Json.readTexts fields (Text.ofUtf8Lossy r.body).toList).toOption = some texts) :
    textsBody fields r = .ok texts := by
  unfold textsBody
  generalize Json.readTexts fields (Text.ofUtf8Lossy r.body).toList = read at hread ⊢
  cases read with
  | error e => cases hread
  | ok x =>
    cases hread
    simp [hjson, hutf8]

theorem operatorRequest_welcome :
    operatorRequest visitorCardId welcome = .ok (visitorCardId, ⟨" Buenas ", some "ana"⟩) := by
  have hname : Http.pathPart? visitorCardId = some visitorCardId := by decide +kernel
  have hjson : isJson welcome = true := by decide +kernel
  have hutf8 : (Text.ofUtf8? welcome.body).isSome = true := by decide +kernel
  have htexts : (Json.readTexts [⟨"text", false⟩, ⟨"agentId", true⟩]
      (Text.ofUtf8Lossy welcome.body).toList).toOption =
        some [("agentId", some "ana"), ("text", some " Buenas ")] := by decide +kernel
  have hbody := textsBody_of_read hjson hutf8 htexts
  simp only [operatorRequest, pathName, hname, operatorMessage, hbody, bind, Except.bind]
  rfl

/-- The visitor gets the reply, without the blanks around it, and it is on their card. -/
theorem operator_reply_welcome :
    lobby.start lobbySeed unreachable dawn = .ok (lobbySetup, lobbyWorld) ∧
      Resource.ofPath? welcome.path = some (.cardMessages visitorCardId) ∧
      ∃ m, lastOn? (lobbySetup.filed lobbyWorld [greeting]) visitorCardId = some m ∧
        m.platform = .webChat ∧ m.sender = "s1" ∧
        Sent lobbySetup (lobbySetup.serve lobbyWorld [greeting]) visitorCardId m "Buenas"
          (some "ana") (lobbySetup.answer welcome (lobbySetup.serve lobbyWorld [greeting])).1
          (lobbySetup.answer welcome (lobbySetup.serve lobbyWorld [greeting])).2 := by
  have hslash : visitorCardId.toList.all (· != '/') = true := by decide +kernel
  have hpath : Resource.ofPath? welcome.path = some (.cardMessages visitorCardId) :=
    ofPath?_messagesPath fun c hc => by simpa using List.all_eq_true.1 hslash c hc
  have hlast : (lastOn? (lobbySetup.filed lobbyWorld [greeting]) visitorCardId).map
      (fun m => (m.platform, m.sender)) = some (.webChat, "s1") := by decide +kernel
  obtain ⟨m, hm, hsource⟩ := Option.map_eq_some_iff.1 hlast
  obtain ⟨hplatform, hsender⟩ := Prod.mk.inj hsource
  have hdeliverable : ¬ Undeliverable lobbySetup (lobbySetup.serve lobbyWorld [greeting])
      (lobbySetup.filed lobbyWorld [greeting]) visitorCardId "Buenas" := by
    rintro (hempty | hvacant | ⟨hlast', hclosed⟩ | ⟨hlast', hreached, hfails⟩)
    · exact absurd hempty (by decide)
    · have hthere : ((lobbySetup.serve lobbyWorld [greeting]).desk.card? visitorCardId).isSome =
          true := by decide +kernel
      rw [hvacant] at hthere
      cases hthere
    · cases hm.symm.trans hlast'
      rw [hplatform] at hclosed
      cases hclosed
    · cases hm.symm.trans hlast'
      rw [hplatform] at hreached
      cases hreached
      cases hfails
  have htext : Text.trim " Buenas " = "Buenas" := by decide +kernel
  obtain ⟨-, hdelivered⟩ :=
    operator_reply start_lobby [greeting] (r := welcome) rfl hpath operatorRequest_welcome
  rw [htext] at hdelivered
  obtain ⟨m', hm', hsent⟩ := hdelivered hdeliverable
  cases hm.symm.trans hm'
  exact ⟨start_lobby, hpath, m, hm, hplatform, hsender, hsent⟩

end Service

end Switchboard
