import Mathlib.Logic.Relation
import Switchboard.Proofs.Desk.Cards
import Switchboard.Proofs.Service.Runs

/-!
# Moves of the desk

What the service can do to the desk, whatever it is asked: it receives a message that a webhook
brought, or it changes a card. Every handler is read here once, as a number of such moves
(`answer_moves`, `serve_moves`); what holds at all moments of a run then needs one case for each
move.
-/

namespace Switchboard

open Service

/-- A message that is read from a payload which arrives at a time. -/
inductive Inbound.Brings (received : Time.Instant) : Message → Prop
  | whatsApp {v : Json} {m : Message} (h : m ∈ WhatsApp.messages received v) : Brings received m
  | page {v : Json} {m : Message} (h : m ∈ Meta.messages received v) : Brings received m
  | telegram (v : Json) : Brings received (Telegram.message received v)
  | x {v : Json} {m : Message} (h : m ∈ X.messages received v) : Brings received m
  | tikTok (v : Json) : Brings received (TikTok.message received v)
  | webChat (v : Json) : Brings received (WebChat.message received v)

/-- One change of the desk, at a reading of the clock. Lines are those of an operator or a bot, and
a position is touched when it is written. -/
inductive Desk.Move (keyword : String) (clock : Clock) (d d' : Desk) : Prop
  | receive {m : Message} {a : Arrival} (arrived n : Nat)
      (brings : Inbound.Brings (clock arrived) m)
      (eq : d.receive keyword m (clock n) = .ok (a, d'))
  | markRead {p : Platform} {sender : String} {found : Option String} (n : Nat)
      (eq : d.markRead p sender (clock n) = .ok (found, d'))
  | setPosition {id : String} {p : Position} (n : Nat) (touched : p.touchedAt = clock n)
      (eq : d.setPosition id p (clock n) = .ok d')
  | appendOutbound {id text : String} {author : Author} {c : Card} (n : Nat)
      (outbound : author ≠ .contact) (eq : d.appendOutbound id author text (clock n) = .ok (c, d'))
  | learn {id name value : String} (n : Nat) (eq : d.learn id name value (clock n) = .ok d')
  | rename {id name : String} (n : Nat) (eq : d.rename id name (clock n) = .ok d')

/-- What a move makes of a card. -/
inductive Card.Becomes (clock : Clock) (c : Card) : Card → Prop
  | written {m : Message} (arrived n : Nat) (brings : Inbound.Brings (clock arrived) m) :
    c.Becomes clock (m.addTo (clock n) c)
  | read (n : Nat) : c.Becomes clock (Card.touch { c with lastReadAt := some (clock n) } (clock n))
  | placed {p : Position} (n : Nat) (touched : p.touchedAt = clock n) :
    c.Becomes clock (Card.touch { c with position := some p } (clock n))
  | answered {author : Author} (text : String) (n : Nat) (outbound : author ≠ .contact) :
    c.Becomes clock
      ((c.append (Desk.outboundEntry c author text (clock n))).touch (clock n))
  | learned (name value : String) (n : Nat) :
    c.Becomes clock (Card.touch { c with fields := c.fields.set name value } (clock n))
  | renamed (name : String) (n : Nat) : c.Becomes clock (c.renamed name (clock n))

namespace Desk

variable {keyword : String} {clock : Clock} {d d' : Desk}

/-- A move leaves the desk as it is, or changes one card, or puts the first message of a contact on
a card of their own. -/
theorem Move.eq_or_withCard (h : d.Move keyword clock d') :
    d' = d ∨ (∃ c c', d.card? c.id = some c ∧ c.Becomes clock c' ∧ d' = d.withCard c') ∨
      ∃ lane m arrived n id, d.defaultLane keyword = .ok lane ∧
        Inbound.Brings (clock arrived) m ∧ id = contactCardId m.platform m.sender ∧
        d' = d.withCard (m.addTo (clock n) (m.blankCard id lane (clock n))) := by
  have hthere : ∀ {id : String} {c : Card}, d.card? id = some c → ∀ c', c.Becomes clock c' →
      d' = d.withCard c' → ∃ c c', d.card? c.id = some c ∧ c.Becomes clock c' ∧
        d' = d.withCard c' := by
    rintro id c hc c' hc' rfl
    obtain rfl := id_of_card? hc
    exact ⟨c, c', hc, hc', rfl⟩
  cases h with
  | @receive m a arrived n hm h =>
    cases hf : d.find? m.platform m.sender with
    | some c =>
      rw [receive_of_found hf] at h
      cases h
      exact .inr (.inl (hthere (find?_some hf).1 _ (.written arrived n hm) rfl))
    | none =>
      cases hl : d.defaultLane keyword with
      | error e => rw [receive_of_no_lane hf hl] at h; cases h
      | ok lane =>
        rw [receive_of_unknown hf hl] at h
        obtain ⟨id, hid⟩ : ∃ id, id = contactCardId m.platform m.sender := ⟨_, rfl⟩
        rw [← hid] at h
        cases hc : d.card? id with
        | some c =>
          rw [deposit_of_card? hc] at h
          cases h
          exact .inr (.inl (hthere hc _ (.written arrived n hm) rfl))
        | none =>
          rw [deposit_of_vacant hc rfl] at h
          cases h
          exact .inr (.inr ⟨lane, m, arrived, n, id, rfl, hm, hid, rfl⟩)
  | @markRead p sender found n h =>
    rcases markRead_cases d p sender (clock n) with he | ⟨c, hc, he⟩ <;> rw [he] at h <;> cases h
    · exact .inl rfl
    · exact .inr (.inl (hthere hc _ (.read n) rfl))
  | @setPosition id p n touched h =>
    cases hc : d.card? id with
    | none =>
      unfold Desk.setPosition at h
      rw [change_of_none hc] at h
      cases h
    | some c =>
      rw [setPosition_of_card? hc] at h
      cases h
      exact .inr (.inl (hthere hc _ (.placed n touched) rfl))
  | @appendOutbound id text author c n outbound h =>
    cases hc : d.card? id with
    | none =>
      unfold Desk.appendOutbound at h
      rw [change_of_none hc] at h
      cases h
    | some x =>
      rw [appendOutbound_of_card? hc] at h
      cases h
      exact .inr (.inl (hthere hc _ (.answered text n outbound) rfl))
  | @learn id name value n h =>
    cases hc : d.card? id with
    | none =>
      unfold Desk.learn at h
      rw [change_of_none hc] at h
      cases h
    | some c =>
      rw [learn_of_card? hc] at h
      cases h
      exact .inr (.inl (hthere hc _ (.learned name value n) rfl))
  | @rename id name n h =>
    cases hc : d.card? id with
    | none =>
      unfold Desk.rename at h
      dsimp only at h
      split at h
      · cases h; exact .inl rfl
      · rw [change_of_none hc] at h; cases h
    | some c =>
      rw [rename_of_card? hc] at h
      cases h
      exact .inr (.inl (hthere hc _ (.renamed name n) rfl))

end Desk

/-- Any number of moves. -/
def Desk.Moves (keyword : String) (clock : Clock) : Desk → Desk → Prop :=
  Relation.ReflTransGen (Desk.Move keyword clock)

namespace Desk.Moves

variable {keyword : String} {clock : Clock} {d d' d'' : Desk}

theorem refl (d : Desk) : Moves keyword clock d d := Relation.ReflTransGen.refl

theorem one (h : Move keyword clock d d') : Moves keyword clock d d' :=
  Relation.ReflTransGen.single h

theorem trans (h : Moves keyword clock d d') (h' : Moves keyword clock d' d'') :
    Moves keyword clock d d'' := Relation.ReflTransGen.trans h h'

/-- What every move keeps holds after any number of them. -/
theorem keep {p : Desk → Prop} (hmove : ∀ d d', p d → Move keyword clock d d' → p d')
    (h : Moves keyword clock d d') (hd : p d) : p d' := by
  induction h with
  | refl => exact hd
  | tail _ hlast ih => exact hmove _ _ ih hlast

end Desk.Moves

namespace World

variable {w : World} {keyword : String} {clock : Clock}

-- ---------------------------------------------------------------------------
-- Turns
-- ---------------------------------------------------------------------------

theorem onDesk_moves {α : Type} {act : Desk → Time.Instant → Except DeskError (α × Desk)}
    (h : ∀ n x d', act w.desk (clock n) = .ok (x, d') → w.desk.Move keyword clock d') :
    w.desk.Moves keyword clock (w.onDesk clock act).2.desk := by
  unfold onDesk
  split
  next x d' hx => exact .one (h _ x d' hx)
  next => exact .refl _

theorem changeDesk_moves {act : Desk → Time.Instant → Except DeskError Desk}
    (h : ∀ n d', act w.desk (clock n) = .ok d' → w.desk.Move keyword clock d') :
    w.desk.Moves keyword clock (w.changeDesk clock act).2.desk := by
  unfold changeDesk
  refine onDesk_moves fun n x d' hx => ?_
  cases ha : act w.desk (clock n) with
  | error e => rw [ha] at hx; cases hx
  | ok d' => rw [ha] at hx; cases hx; exact h n _ ha

theorem act_moves (keyword : String) (w : World) (s : Stage) (t : Turn) (a : Action) :
    w.desk.Moves keyword s.clock (w.act s t a).2.desk := by
  cases a with
  | showRead id => exact .refl _
  | pause span => exact .refl _
  | countStep kind => exact .refl _
  | send call =>
    simp only [act, attempt]
    cases s.channel (w.callsOn s.platform) call <;> exact .refl _
  | note text =>
    simp only [act]
    refine changeDesk_moves fun n d' h => ?_
    cases ha : w.desk.appendOutbound t.card.id (.bot (some t.bot.id)) text (s.clock n) with
    | error e => rw [ha] at h; cases h
    | ok r =>
      rw [ha] at h
      cases h
      exact .appendOutbound n (by rintro ⟨⟩) ha
  | standAt node =>
    simp only [act]
    exact changeDesk_moves fun n d' h => .setPosition n rfl h
  | finish =>
    simp only [act]
    exact changeDesk_moves fun n d' h => .setPosition n rfl h
  | learn name value =>
    simp only [act]
    exact changeDesk_moves fun n d' h => .learn n h
  | rename name =>
    simp only [act]
    exact changeDesk_moves fun n d' h => .rename n h

theorem actAll_moves (keyword : String) (w : World) (s : Stage) (t : Turn) (as : List Action) :
    w.desk.Moves keyword s.clock (w.actAll s t as).2.desk := by
  induction as generalizing w with
  | nil => exact .refl _
  | cons a as ih =>
    have ha := act_moves keyword w s t a
    unfold actAll
    split
    next w' h => rw [h] at ha; exact ha.trans (ih w')
    next e w' h => rw [h] at ha; exact ha

theorem runTurn_moves (keyword : String) (w : World) (s : Stage) (rules : TurnRules)
    (introductions : List Introduction) (t : Turn) :
    w.desk.Moves keyword s.clock (w.runTurn s rules introductions t).2.desk := by
  have h := actAll_moves keyword w.tick s t
    (t.plan rules introductions (s.clock w.readings)).actions
  unfold runTurn
  dsimp only
  split
  next w' hw => rw [hw] at h; exact h
  next e w' hw => rw [hw] at h; exact h

-- ---------------------------------------------------------------------------
-- Messages
-- ---------------------------------------------------------------------------

variable (s : Setup) {m : Message} {arrived : Nat}

theorem receive_moves (w : World) (keyword : String) (hm : Inbound.Brings (clock arrived) m) :
    w.desk.Moves keyword clock (w.receive clock keyword m).2.desk := by
  have h : w.desk.Moves keyword clock
      (w.onDesk clock fun d now => d.receive keyword m now).2.desk :=
    onDesk_moves fun n a d' h => .receive arrived n hm h
  unfold receive
  split
  next a w' hw =>
    rw [hw] at h
    dsimp only
    split <;> exact h
  next e w' hw => rw [hw] at h; exact h

theorem answer_moves (keyword : String) (w : World) (m : Message) (a : Arrival) :
    w.desk.Moves keyword s.clock (w.answer s m a).2.desk := by
  unfold answer
  split
  next b channel c _ _ _ =>
    have h := runTurn_moves keyword w.tick ⟨channel, m.platform, s.clock⟩ s.rules s.introductions
      (w.turnFor s m a b c)
    dsimp only
    split <;> rename_i hw <;> rw [hw] at h <;> exact h
  next => exact .refl _

theorem ingest_moves (w : World) (hm : Inbound.Brings (s.clock arrived) m) :
    w.desk.Moves s.laneKeyword s.clock (w.ingest s m).2.desk := by
  have h := receive_moves (w.count (.ingressed m.platform)) s.laneKeyword hm
  unfold ingest
  split
  · exact .refl _
  · split
    next e w' hw => rw [hw] at h; exact h
    next a w' hw =>
      rw [hw] at h
      dsimp only
      split
      · exact h.trans (answer_moves s s.laneKeyword w' m a)
      · exact h

theorem ingestAll_moves (w : World) {ms : List Message}
    (hms : ∀ m ∈ ms, Inbound.Brings (s.clock arrived) m) :
    w.desk.Moves s.laneKeyword s.clock (w.ingestAll s ms).2.desk := by
  induction ms generalizing w with
  | nil => exact .refl _
  | cons m ms ih =>
    have h := ingest_moves s w (hms m List.mem_cons_self)
    have hms' : ∀ x ∈ ms, Inbound.Brings (s.clock arrived) x :=
      fun x hx => hms x (List.mem_cons_of_mem m hx)
    unfold ingestAll
    split
    next report w' hw =>
      rw [hw] at h
      have hrest := h.trans (ih w' hms')
      split <;> rename_i hms <;> rw [hms] at hrest <;> exact hrest
    next detail w' hw => rw [hw] at h; exact h.trans (ih w' hms')
    next e w' _ hw => rw [hw] at h; exact h

theorem markAllRead_moves (w : World) (p : Platform) (senders : List String) :
    w.desk.Moves s.laneKeyword s.clock (w.markAllRead s p senders).2.desk := by
  induction senders generalizing w with
  | nil => exact .refl _
  | cons sender senders ih =>
    have h : w.desk.Moves s.laneKeyword s.clock
        (w.onDesk s.clock fun d now => d.markRead p sender now).2.desk :=
      onDesk_moves fun n found d' h => .markRead n h
    unfold markAllRead
    split
    next e w' hw => rw [hw] at h; exact h
    next found w' hw =>
      rw [hw] at h
      have hrest := h.trans (ih w')
      split <;> rename_i hms <;> rw [hms] at hrest <;> exact hrest

end World

namespace Service

open Routes

-- ---------------------------------------------------------------------------
-- Requests
-- ---------------------------------------------------------------------------

/-- A handler that does nothing to the desk but move it. -/
def Handler.Moves (s : Setup) (handle : Handler) : Prop :=
  ∀ w : World, w.desk.Moves s.laneKeyword s.clock (handle w).2.desk

variable (s : Setup) (r : Http.Request)

theorem takeIn_moves {messages : Time.Instant → List Message} (done : Http.Reply)
    (hmessages : ∀ now, ∀ m ∈ messages now, Inbound.Brings now m) :
    Handler.Moves s (takeIn s messages done) := by
  intro w
  have h := World.ingestAll_moves s w.tick (hmessages (s.clock w.readings))
  unfold takeIn
  split <;> rename_i hw <;> rw [hw] at h <;> exact h

theorem whatsApp_moves : Handler.Moves s (whatsApp s r) := by
  intro w
  unfold whatsApp
  split
  next => exact .refl _
  next v _ =>
    have hms : ∀ m ∈ Inbound.WhatsApp.messages (s.clock w.readings) v,
        Inbound.Brings (s.clock w.readings) m := fun m hm => .whatsApp hm
    have h := World.ingestAll_moves s w.tick hms
    split
    next f w' hw => rw [hw] at h; exact h
    next reports w' hw =>
      rw [hw] at h
      have hrest := h.trans
        (World.markAllRead_moves s w' .whatsApp (Inbound.WhatsApp.readers v))
      split <;> rename_i hread <;> rw [hread] at hrest <;> exact hrest

theorem metaDelivery_moves : Handler.Moves s (metaDelivery s r) := by
  intro w
  unfold metaDelivery
  split
  next => exact .refl _
  next v _ => exact takeIn_moves s _ (fun now m hm => .page hm) w

theorem telegram_moves : Handler.Moves s (telegram s r) := by
  intro w
  unfold telegram
  split
  next => exact .refl _
  next v _ =>
    refine takeIn_moves s _ (fun now m hm => ?_) w
    rw [List.mem_singleton.1 hm]
    exact .telegram v

theorem xDelivery_moves : Handler.Moves s (xDelivery s r) := by
  intro w
  unfold xDelivery
  split
  next => exact .refl _
  next v _ => exact takeIn_moves s _ (fun now m hm => .x hm) w

theorem tikTok_moves : Handler.Moves s (tikTok s r) := by
  intro w
  unfold tikTok
  split
  next => exact .refl _
  next v _ =>
    refine takeIn_moves s _ (fun now m hm => ?_) w
    rw [List.mem_singleton.1 hm]
    exact .tikTok v

theorem widgetPost_moves : Handler.Moves s (widgetPost s r) := by
  intro w
  unfold widgetPost
  split
  next => exact .refl _
  next v _ =>
    have hm : Inbound.Brings (s.clock w.readings)
        (Inbound.WebChat.message (s.clock w.readings) v) := .webChat v
    have h := World.ingest_moves s w.tick hm
    split <;> rename_i hw <;> rw [hw] at h <;> exact h

theorem operatorSend_moves (id : String) : Handler.Moves s (operatorSend s id r) := by
  intro w
  unfold operatorSend
  split
  next => exact .refl _
  next id m _ =>
    dsimp only
    split
    next => exact .refl _
    next d _ =>
      have h : w.desk.Moves s.laneKeyword s.clock
          (w.attempt d.channel d.platform (.text d.recipient (Text.trim m.text))).2.desk := .refl _
      split
      next e w' hw => rw [hw] at h; exact h
      next receipt w' hw =>
        rw [hw] at h
        have hrest : w'.desk.Moves s.laneKeyword s.clock (w'.onDesk s.clock fun d now =>
            d.appendOutbound id (.agent m.agentId) (Text.trim m.text) now).2.desk :=
          World.onDesk_moves fun n c d' h => .appendOutbound n (by rintro ⟨⟩) h
        have hall := h.trans hrest
        split <;> rename_i ho <;> rw [ho] at hall <;> exact hall

theorem chooseBot_moves : Handler.Moves s (chooseBot r) := by
  intro w
  unfold chooseBot
  split
  next => exact .refl _
  next =>
    dsimp only
    split <;> exact .refl _

theorem handler?_moves {resource : Resource} {method : String} {handle : Handler}
    (h : handler? s r resource method = some handle) : Handler.Moves s handle := by
  unfold handler? at h
  dsimp only at h
  split at h <;> cases h
  · exact fun w => .refl _
  · exact fun w => .refl _
  · exact fun w => .refl _
  · exact whatsApp_moves s r
  · exact metaDelivery_moves s r
  · exact telegram_moves s r
  · exact xDelivery_moves s r
  · exact tikTok_moves s r
  · exact widgetPost_moves s r
  · exact fun w => .refl _
  · exact fun w => .refl _
  · exact operatorSend_moves s r _
  · exact chooseBot_moves s r

theorem answer_moves (w : World) :
    w.desk.Moves s.laneKeyword s.clock (s.answer r w).2.desk := by
  unfold Setup.answer
  split
  next => exact .refl _
  next resource _ =>
    dsimp only
    split
    next => exact .refl _
    next handle h => exact handler?_moves s r h w

theorem serve_moves (w : World) (requests : List Http.Request) :
    w.desk.Moves s.laneKeyword s.clock (s.serve w requests).desk := by
  induction requests generalizing w with
  | nil => exact .refl _
  | cons r requests ih => exact (answer_moves s r w).trans (ih _)

end Service

end Switchboard
