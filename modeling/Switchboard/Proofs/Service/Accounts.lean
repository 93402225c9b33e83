import Switchboard.Proofs.Dialogue.Steps
import Switchboard.Proofs.Service.Batches
import Switchboard.Proofs.Service.Counters
import Switchboard.Proofs.Service.OperatorReplies

/-!
# The counters account for the desk

The service counts while it works: messages before they are brought to their cards, cards as they
are made, steps and outcomes within a turn, and failures where a turn or an operator's reply ends.
For each thing that the service does two relations say what it counts. `World.Enters` is about what
comes onto the desk, and `Count.Reckons` about turns, their steps and the failures. Both are kept
from a message to a batch, from a handler to an answer and from there to a run, so that at any time
the counters agree with what is on the desk (`counters_account`).
-/

namespace Switchboard

open Service

-- ---------------------------------------------------------------------------
-- What is on a desk
-- ---------------------------------------------------------------------------

/-- The lines on a card that its contact wrote on a platform. -/
def Card.linesFrom (p : Platform) (c : Card) : Nat :=
  c.contactLines.countP fun e => e.platform == some p

namespace Desk

def size (d : Desk) : Nat := d.cards.items.length

/-- The lines on all cards that contacts wrote on a platform. -/
def linesFrom (p : Platform) (d : Desk) : Nat := (d.cards.items.map (Card.linesFrom p)).sum

variable {d d' : Desk} {keyword : String} {m : Message} {a : Arrival} {now : Time.Instant}

theorem Attended.contactLines (h : d.Attended d') :
    d'.cards.items.map Card.contactLines = d.cards.items.map Card.contactLines := by
  refine Catalog.map_items_eq _ fun id => ?_
  have hrel := h id
  change (d'.card? id).map _ = (d.card? id).map _
  generalize d.card? id = x at hrel ⊢
  generalize d'.card? id = y at hrel ⊢
  cases hrel with
  | none => rfl
  | some hattended => rw [Option.map_some, Option.map_some, hattended.lines rfl]

theorem Attended.size (h : d.Attended d') : d'.size = d.size := by
  have hlength := congrArg List.length h.contactLines
  rwa [List.length_map, List.length_map] at hlength

theorem Attended.linesFrom (h : d.Attended d') (p : Platform) : d'.linesFrom p = d.linesFrom p := by
  have hsum := congrArg (fun lines : List (List Entry) =>
    (lines.map fun es => es.countP fun e => e.platform == some p).sum) h.contactLines
  simp only [List.map_map] at hsum
  exact hsum

theorem linesFrom_addTo (m : Message) (now : Time.Instant) (c : Card) (p : Platform) :
    (m.addTo now c).linesFrom p = c.linesFrom p + if m.platform = p then 1 else 0 := by
  unfold Card.linesFrom
  rw [Register.contactLines_addTo, List.countP_append, List.countP_singleton]
  simp [Message.entry]

theorem sum_withCard (d : Desk) (f : Card → Nat) (c : Card) :
    ((d.withCard c).cards.items.map f).sum + ((d.card? c.id).map f).getD 0 =
      (d.cards.items.map f).sum + f c := Catalog.sum_put d.cards f c

theorem size_eq_sum (d : Desk) : d.size = (d.cards.items.map fun _ => 1).sum := by
  simp [size]

/-- A message that lands is one line more of its platform, and one card more if it is the first of
its contact. -/
theorem receive_adds (h : d.receive keyword m now = .ok (a, d')) :
    d'.size = d.size + (if a.isNew then 1 else 0) ∧
      ∀ p, d'.linesFrom p = d.linesFrom p + if m.platform = p then 1 else 0 := by
  obtain ⟨c, hid, rfl, hcard⟩ := receive_landed h
  have hsum := fun f => sum_withCard d f (m.addTo now c)
  simp only [Message.addTo_id, hid] at hsum
  rcases hcard with ⟨hold, hc⟩ | ⟨hnew, hnone, lane, rfl⟩
  · refine ⟨?_, fun p => ?_⟩
    · have hsize := hsum fun _ => 1
      rw [← size_eq_sum, ← size_eq_sum, hc] at hsize
      simpa [hold] using hsize
    · have hlines := hsum (Card.linesFrom p)
      rw [hc, Option.map_some, Option.getD_some, linesFrom_addTo] at hlines
      unfold linesFrom
      omega
  · refine ⟨?_, fun p => ?_⟩
    · have hsize := hsum fun _ => 1
      rw [← size_eq_sum, ← size_eq_sum, hnone] at hsize
      simpa [hnew] using hsize
    · have hlines := hsum (Card.linesFrom p)
      rw [hnone, Option.map_none, Option.getD_none, linesFrom_addTo] at hlines
      have hblank : (m.blankCard a.cardId lane now).linesFrom p = 0 := rfl
      unfold linesFrom
      omega

end Desk

-- ---------------------------------------------------------------------------
-- What new counts say
-- ---------------------------------------------------------------------------

namespace Count

def isCreation : Count → Bool
  | .cardCreated _ => true
  | _ => false

def isStep : Count → Bool
  | .botStep _ => true
  | _ => false

def isFailure : Count → Bool
  | .deliveryFailed _ => true
  | _ => false

/-- What is counted when a message arrives. -/
def isArrival : Count → Bool
  | .ingressed _ | .cardCreated _ => true
  | _ => false

theorem counter_creations : (fun c : Count => c.counter == "hub_cards_created_total") = isCreation := by
  funext c
  cases c <;> rfl

theorem counter_turns : (fun c : Count => c.counter == "hub_bot_turns_total") = isTurn := by
  funext c
  cases c <;> rfl

theorem counter_steps : (fun c : Count => c.counter == "hub_bot_steps_total") = isStep := by
  funext c
  cases c <;> rfl

theorem counter_failures : (fun c : Count => c.counter == "hub_adapter_errors_total") = isFailure := by
  funext c
  cases c <;> rfl

/-- Counts of so many turns and of so many failed replies of operators. All other failures are those
of turns, and no turn has more steps than the limit. -/
structure Reckons (limit asked failed : Nat) (new : List Count) : Prop where
  turns : new.countP isTurn = asked
  failures : new.countP isFailure = new.count (.botTurn "failed") + failed
  steps : new.countP isStep ≤ limit * asked

variable {limit asked asked' failed failed' : Nat} {new new' : List Count}

theorem Reckons.nil (limit : Nat) : Reckons limit 0 0 [] := ⟨rfl, rfl, Nat.zero_le _⟩

theorem Reckons.append (h : Reckons limit asked failed new) (h' : Reckons limit asked' failed' new') :
    Reckons limit (asked + asked') (failed + failed') (new ++ new') where
  turns := by rw [List.countP_append, h.turns, h'.turns]
  failures := by
    rw [List.countP_append, List.count_append, h.failures, h'.failures]
    omega
  steps := by
    rw [List.countP_append, Nat.mul_add]
    exact Nat.add_le_add h.steps h'.steps

theorem countP_steps (test : Count → Bool) (h : ∀ kind, test (botStep kind) = false)
    (kinds : List NodeKind) : (kinds.map botStep).countP test = 0 := by
  rw [List.countP_map, List.countP_eq_zero]
  simp [h]

/-- A turn counts its steps, and at its end that it is over, and a failure if it is one. -/
theorem reckons_turn {kinds : List NodeKind} (hkinds : kinds.length ≤ limit) {rest : List Count}
    (hturn : rest.countP isTurn = 1)
    (hfailure : rest.countP isFailure = rest.count (.botTurn "failed"))
    (hstep : rest.countP isStep = 0) : Reckons limit 1 0 (kinds.map botStep ++ rest) where
  turns := by rw [List.countP_append, countP_steps _ fun _ => rfl, hturn]
  failures := by
    rw [List.countP_append, countP_steps _ fun _ => rfl, List.count_append, List.count,
      countP_steps _ fun _ => rfl, hfailure]
    rfl
  steps := by
    rw [List.countP_append, hstep, List.countP_map, Nat.mul_one]
    exact Nat.le_trans List.countP_le_length hkinds

end Count

-- ---------------------------------------------------------------------------
-- What is entered
-- ---------------------------------------------------------------------------

/-- The counts of arrivals among the new ones are of what has come onto the desk. -/
structure World.Enters (w : World) (new : List Count) (w' : World) : Prop where
  tally : w'.tally = w.tally ++ new
  size : w'.desk.size = w.desk.size + new.countP Count.isCreation
  lines : ∀ p, w'.desk.linesFrom p = w.desk.linesFrom p + new.count (.ingressed p)

namespace World

variable {w w' w'' : World} {new new' : List Count} {s : Setup} {m : Message} {a : Arrival}

theorem Enters.refl (w : World) : w.Enters [] w :=
  ⟨(List.append_nil _).symm, rfl, fun _ => rfl⟩

theorem Enters.append (h : w.Enters new w') (h' : w'.Enters new' w'') :
    w.Enters (new ++ new') w'' where
  tally := by rw [h'.tally, h.tally, List.append_assoc]
  size := by rw [h'.size, h.size, List.countP_append, Nat.add_assoc]
  lines p := by rw [h'.lines, h.lines, List.count_append, Nat.add_assoc]

/-- Attending to the cards brings nothing onto the desk. -/
theorem Enters.of_attended (htally : w'.tally = w.tally ++ new) (h : w.desk.Attended w'.desk)
    (hnew : ∀ c ∈ new, c.isArrival = false) : w.Enters new w' where
  tally := htally
  size := by
    have hnone : new.countP Count.isCreation = 0 := List.countP_eq_zero.2 fun c hc => by
      have harrival := hnew c hc
      cases c <;> first | exact Bool.false_ne_true | cases harrival
    rw [h.size, hnone, Nat.add_zero]
  lines p := by
    have hnone : new.count (.ingressed p) = 0 := List.count_eq_zero.2 fun hc => nomatch hnew _ hc
    rw [h.linesFrom, hnone, Nat.add_zero]

theorem Enters.of_attended_still (htally : w'.tally = w.tally) (h : w.desk.Attended w'.desk) :
    w.Enters [] w' :=
  .of_attended (htally.trans (List.append_nil _).symm) h fun _ hc => nomatch hc

/-- What has come onto the desk is counted, and so are so many turns and so many failed replies of
operators. -/
def Accounts (w : World) (s : Setup) (asked failed : Nat) (w' : World) : Prop :=
  ∃ new, w.Enters new w' ∧ Count.Reckons s.rules.maxSteps asked failed new

theorem Accounts.of_still (h : w.Enters [] w') : w.Accounts s 0 0 w' := ⟨[], h, .nil _⟩

theorem Accounts.refl (w : World) (s : Setup) : w.Accounts s 0 0 w := .of_still (.refl w)

theorem Accounts.trans {asked asked' failed failed' : Nat} (h : w.Accounts s asked failed w')
    (h' : w'.Accounts s asked' failed' w'') :
    w.Accounts s (asked + asked') (failed + failed') w'' := by
  obtain ⟨new, hentered, hreckons⟩ := h
  obtain ⟨more, hmore, hreckons'⟩ := h'
  exact ⟨new ++ more, hentered.append hmore, hreckons.append hreckons'⟩

theorem Accounts.of_tick {asked failed : Nat} (h : w.tick.Accounts s asked failed w') :
    w.Accounts s asked failed w' := by
  obtain ⟨new, hentered, hreckons⟩ := h
  exact ⟨new, ⟨hentered.tally, hentered.size, hentered.lines⟩, hreckons⟩

-- ---------------------------------------------------------------------------
-- Messages
-- ---------------------------------------------------------------------------

/-- A message that is brought to its card is counted, and so is a card that is new. -/
theorem receive_enters {d : Desk}
    (h : w.desk.receive s.laneKeyword m (s.clock w.readings) = .ok (a, d)) :
    ∃ landed : World, (w.count (.ingressed m.platform)).receive s.clock s.laneKeyword m =
        (.ok a, landed) ∧ landed.desk = d ∧ landed.roster = w.roster ∧
      w.Enters (.ingressed m.platform :: if a.isNew then [.cardCreated m.platform] else [])
        landed := by
  have hreceive : (w.count (.ingressed m.platform)).desk.receive s.laneKeyword m
      (s.clock (w.count (.ingressed m.platform)).readings) = .ok (a, d) := h
  obtain ⟨hsize, hlines⟩ := Desk.receive_adds h
  unfold receive onDesk
  simp only [hreceive]
  refine ⟨_, rfl, ?_⟩
  cases hnew : a.isNew with
  | true =>
    refine ⟨rfl, rfl, List.append_assoc _ _ _, ?_, fun p => ?_⟩
    · show d.size = _
      simpa [hnew, Count.isCreation] using hsize
    · show d.linesFrom p = _
      simpa [List.count_cons] using hlines p
  | false =>
    refine ⟨rfl, rfl, rfl, ?_, fun p => ?_⟩
    · show d.size = _
      simpa [hnew, Count.isCreation] using hsize
    · show d.linesFrom p = _
      simpa [List.count_cons] using hlines p

/-- Whether a bot is asked to answer a message: it is a text, a bot is active, and the platform can
be reached. -/
def asks (w : World) (s : Setup) (m : Message) : Bool :=
  m.kind == .text && w.roster.active?.isSome && (s.channels m.platform).isSome

theorem turn_arrives {kinds : List NodeKind} {rest : List Count}
    (hrest : ∀ c ∈ rest, c.isArrival = false) :
    ∀ c ∈ kinds.map Count.botStep ++ rest, c.isArrival = false := by
  refine List.forall_mem_append.2 ⟨fun c hc => ?_, hrest⟩
  obtain ⟨kind, -, rfl⟩ := List.mem_map.1 hc
  rfl

/-- A text on a card is answered by one turn if a bot is asked. -/
theorem answer_accounts {c : Card} (hc : w.desk.card? a.cardId = some c) (htext : m.kind = .text) :
    w.Accounts s (w.asks s m).toNat 0 (w.answer s m a).2 := by
  unfold answer
  split
  next b channel c hb hchannel hc =>
    have hasks : w.asks s m = true := by simp [asks, htext, hb, hchannel]
    have hid : (w.turnFor s m a b c).card.id = a.cardId := Desk.id_of_card? hc
    have hstored : w.tick.desk.card? (w.turnFor s m a b c).card.id = some c := by
      rw [hid]
      exact hc
    obtain ⟨kinds, hkinds, htally⟩ := tally_runTurn w.tick ⟨channel, m.platform, s.clock⟩ s.rules
      s.introductions (w.turnFor s m a b c)
    have hattended : w.desk.Attended _ :=
      attended_runTurn hstored ⟨channel, m.platform, s.clock⟩ s.rules s.introductions
    have hrefused := fun e => runTurn_error hstored ⟨channel, m.platform, s.clock⟩ s.rules
      s.introductions (e := e)
    rw [hasks]
    dsimp only
    generalize w.tick.runTurn ⟨channel, m.platform, s.clock⟩ s.rules s.introductions
      (w.turnFor s m a b c) = run at htally hattended hrefused ⊢
    obtain ⟨result, after⟩ := run
    cases result with
    | ok o =>
      have hname : o.name ≠ "failed" := fun h => nomatch (ending_eq_failed_iff (.ok o)).1 h
      have hnone : [Count.botTurn o.name].count (.botTurn "failed") = 0 :=
        List.count_eq_zero.2 (by simpa using hname.symm)
      exact ⟨_, .of_attended htally hattended (turn_arrives (List.forall_mem_singleton.2 rfl)),
        Count.reckons_turn hkinds rfl hnone.symm rfl⟩
    | error e =>
      obtain ⟨d, rfl⟩ := hrefused e rfl
      have hfailed : (after.count (.deliveryFailed m.platform)).tally = w.tally ++
          (kinds.map Count.botStep ++ [.botTurn "failed", .deliveryFailed m.platform]) := by
        have hone := congrArg (· ++ [Count.deliveryFailed m.platform]) htally
        dsimp only at hone
        rwa [List.append_assoc, List.append_assoc] at hone
      have hneither : ∀ c ∈ [Count.botTurn "failed", .deliveryFailed m.platform],
          c.isArrival = false := List.forall_mem_cons.2 ⟨rfl, List.forall_mem_singleton.2 rfl⟩
      exact ⟨_, .of_attended hfailed hattended (turn_arrives hneither),
        Count.reckons_turn hkinds rfl rfl rfl⟩
  next hnone =>
    have hasks : w.asks s m = false := by
      refine Bool.eq_false_iff.2 fun hasks => ?_
      simp only [asks, Bool.and_eq_true, Option.isSome_iff_exists] at hasks
      obtain ⟨⟨-, b, hb⟩, channel, hchannel⟩ := hasks
      exact hnone b channel c hb hchannel hc
    rw [hasks]
    exact .refl w s

/-- A message with a sender is entered, and answered by one turn if a bot is asked, as long as there
is a lane for new cards. -/
theorem ingest_accounts (hlane : ∃ lane, w.desk.defaultLane s.laneKeyword = .ok lane)
    (hnamed : Text.isBlank m.sender = false) :
    w.Accounts s (w.asks s m).toNat 0 (w.ingest s m).2 := by
  obtain ⟨lane, hlane⟩ := hlane
  obtain ⟨c, isNew, hreceive, -, -⟩ := Desk.receive_lands hlane m (s.clock w.readings)
  obtain ⟨landed, hlanded, hdesk, hroster, hentered⟩ := receive_enters hreceive
  have harrived : w.Accounts s 0 0 landed := by
    refine ⟨_, hentered, ?_⟩
    cases isNew <;> exact ⟨rfl, rfl, Nat.zero_le _⟩
  have hcard : landed.desk.card? c.id = some c := by
    rw [hdesk, Desk.card?_withCard_self]
  have hasks : landed.asks s m = w.asks s m := by
    unfold asks
    rw [hroster]
  unfold ingest
  simp only [hnamed, Bool.false_eq_true, if_false, hlanded]
  split
  next htext =>
    have hall := harrived.trans (answer_accounts (a := ⟨c.id, isNew⟩) hcard htext)
    rwa [hasks, Nat.zero_add] at hall
  next htext =>
    have hsilent : w.asks s m = false := by simp [asks, htext]
    rw [hsilent]
    exact harrived

-- ---------------------------------------------------------------------------
-- Batches
-- ---------------------------------------------------------------------------

/-- The messages that are taken in, each with the world that it came into. -/
def takenIn (w : World) (s : Setup) : List Message → List (World × Message)
  | [] => []
  | m :: ms =>
    match w.ingest s m with
    | (.ok _, w') => (w, m) :: w'.takenIn s ms
    | (.error (.badRequest _), w') => w'.takenIn s ms
    | (.error _, _) => []

/-- How many of the messages a bot is asked to answer. -/
def askedFor (s : Setup) (taken : List (World × Message)) : Nat :=
  taken.countP fun x => x.1.asks s x.2

theorem askedFor_cons (s : Setup) (w : World) (m : Message) (taken : List (World × Message)) :
    askedFor s ((w, m) :: taken) = (w.asks s m).toNat + askedFor s taken := by
  unfold askedFor
  rw [List.countP_cons, Nat.add_comm]
  cases w.asks s m <;> rfl

theorem ingestAll_accounts (hlane : ∃ lane, w.desk.defaultLane s.laneKeyword = .ok lane)
    (ms : List Message) :
    w.Accounts s (askedFor s (w.takenIn s ms)) 0 (w.ingestAll s ms).2 := by
  induction ms generalizing w with
  | nil => exact .refl w s
  | cons m ms ih =>
    cases hblank : Text.isBlank m.sender with
    | true =>
      have hm : w.ingest s m = (.error (.badRequest "message has no sender id"), w) := by
        simp [ingest, hblank]
      rw [ingestAll_cons_of_blank hblank, takenIn, hm]
      exact ih hlane
    | false =>
      obtain ⟨lane, hlane⟩ := hlane
      obtain ⟨report, w', hingest, htook⟩ := ingest_takes hlane hblank
      have hfirst := ingest_accounts ⟨lane, hlane⟩ hblank
      rw [hingest] at hfirst
      have hlane' : w'.desk.defaultLane s.laneKeyword = .ok lane := by
        rw [Desk.defaultLane_congr htook.lanes, hlane]
      have hall := hfirst.trans (ih ⟨lane, hlane'⟩)
      have htaken : w.takenIn s (m :: ms) = (w, m) :: w'.takenIn s ms := by
        rw [takenIn, hingest]
      rw [htaken, askedFor_cons, ingestAll, hingest]
      dsimp only
      split <;> rename_i he <;> rw [he] at hall <;> exact hall

theorem tally_onDesk {α : Type} (w : World) (clock : Clock)
    (act : Desk → Time.Instant → Except DeskError (α × Desk)) :
    (w.onDesk clock act).2.tally = w.tally := by
  unfold onDesk
  split <;> rfl

theorem tally_markAllRead (w : World) (s : Setup) (p : Platform) (senders : List String) :
    (w.markAllRead s p senders).2.tally = w.tally := by
  induction senders generalizing w with
  | nil => rfl
  | cons sender senders ih =>
    have h := tally_onDesk w s.clock fun d now => d.markRead p sender now
    unfold markAllRead
    split
    next e w' hw => rw [hw] at h; exact h
    next found w' hw =>
      rw [hw] at h
      have hrest := (ih w').trans h
      split <;> rename_i hms <;> rw [hms] at hrest <;> exact hrest

theorem markAllRead_enters (w : World) (s : Setup) (p : Platform) (senders : List String) :
    w.Enters [] (w.markAllRead s p senders).2 :=
  .of_attended_still (tally_markAllRead w s p senders) (attended_markAllRead w s p senders)

end World

namespace Service

open Routes

-- ---------------------------------------------------------------------------
-- Requests
-- ---------------------------------------------------------------------------

/-- A request for an operator's reply. -/
def Resource.takesReply : Resource → String → Bool
  | .cardMessages _, "POST" => true
  | _, _ => false

/-- The messages that are taken in on a request, each with the world that it came into. -/
def Setup.takenIn (s : Setup) (r : Http.Request) (w : World) : List (World × Message) :=
  match Resource.ofPath? r.path with
  | none => []
  | some resource =>
    let method := if r.method == "HEAD" then "GET" else r.method
    w.tick.takenIn s (s.brought r (s.clock w.readings) resource method)

/-- Whether a request is an operator's reply which is answered with a failure of delivery. -/
def Setup.undelivered (s : Setup) (r : Http.Request) (w : World) : Bool :=
  match Resource.ofPath? r.path with
  | none => false
  | some resource => resource.takesReply r.method && (s.answer r w).1.status == 502

/-- The messages that are taken in in a run, each with the world that it came into. -/
def Setup.taken (s : Setup) (w : World) : List Http.Request → List (World × Message)
  | [] => []
  | r :: requests => s.takenIn r w ++ s.taken (s.answer r w).2 requests

/-- How many replies of operators are answered with a failure of delivery in a run. -/
def Setup.failures (s : Setup) (w : World) : List Http.Request → Nat
  | [] => 0
  | r :: requests => (s.undelivered r w).toNat + s.failures (s.answer r w).2 requests

/-- What a handler enters: turns for the messages that it takes in, and its failure if it is an
operator's. -/
def Handler.Accounts (s : Setup) (messages : Time.Instant → List Message) (failed : World → Bool)
    (handle : Handler) : Prop :=
  ∀ w : World, (∃ lane, w.desk.defaultLane s.laneKeyword = .ok lane) →
    w.Accounts s (World.askedFor s (w.tick.takenIn s (messages (s.clock w.readings))))
      (failed w).toNat (handle w).2

variable (s : Setup) (r : Http.Request)

theorem accounts_still {handle : Handler} (h : ∀ w, (handle w).2 = w) :
    Handler.Accounts s (fun _ => []) (fun _ => false) handle := by
  intro w _
  rw [h w]
  exact .refl w s

theorem takeIn_accounts (messages : Time.Instant → List Message) (done : Http.Reply) :
    Handler.Accounts s messages (fun _ => false) (takeIn s messages done) := by
  intro w hlane
  have hall := World.ingestAll_accounts (w := w.tick) hlane (messages (s.clock w.readings))
  unfold takeIn
  split <;> rename_i hw <;> rw [hw] at hall <;> exact hall.of_tick

/-- A handler that takes in the messages of a payload, or refuses it. -/
theorem accounts_of_payload {ε : Type} {payload : Except ε Json}
    {read : Time.Instant → Json → List Message} {handle : Handler}
    (hrefused : ∀ e, payload = .error e → ∀ w, (handle w).2 = w)
    (htaken : ∀ v, payload = .ok v →
      Handler.Accounts s (fun now => read now v) (fun _ => false) handle) :
    Handler.Accounts s (fun now => messagesIn payload (read now)) (fun _ => false) handle := by
  cases payload with
  | error e => exact accounts_still s (hrefused e rfl)
  | ok v => exact htaken v rfl

theorem whatsApp_accounts : Handler.Accounts s
    (fun now => messagesIn (delivery (checkSignature s.secrets.whatsAppAppSecret r) r)
      (Inbound.WhatsApp.messages now)) (fun _ => false) (whatsApp s r) := by
  refine accounts_of_payload s (fun e he w => by simp only [whatsApp, he]) fun v hv w hlane => ?_
  have hall := World.ingestAll_accounts (w := w.tick) hlane
    (Inbound.WhatsApp.messages (s.clock w.readings) v)
  simp only [whatsApp, hv]
  split <;> rename_i hw <;> rw [hw] at hall
  · exact hall.of_tick
  next reports w' =>
    have hread := w'.markAllRead_enters s .whatsApp (Inbound.WhatsApp.readers v)
    have hboth := hall.of_tick.trans (.of_still hread)
    split <;> rename_i he <;> rw [he] at hboth <;> exact hboth

theorem metaDelivery_accounts : Handler.Accounts s
    (fun now => messagesIn (delivery (checkSignature s.secrets.metaAppSecret r) r)
      (Inbound.Meta.messages now)) (fun _ => false) (metaDelivery s r) := by
  refine accounts_of_payload s (fun e he w => by simp only [metaDelivery, he]) fun v hv => ?_
  have hhandle : metaDelivery s r =
      takeIn s (fun now => Inbound.Meta.messages now v) (.text 200 "EVENT_RECEIVED") := by
    funext w
    simp only [metaDelivery, hv]
  rw [hhandle]
  exact takeIn_accounts s _ _

theorem telegram_accounts : Handler.Accounts s
    (fun now => messagesIn (delivery (checkToken s.secrets.telegramToken r) r) fun v =>
      [Inbound.Telegram.message now v]) (fun _ => false) (telegram s r) := by
  refine accounts_of_payload s (fun e he w => by simp only [telegram, he]) fun v hv => ?_
  have hhandle : telegram s r =
      takeIn s (fun now => [Inbound.Telegram.message now v]) (.empty 200) := by
    funext w
    simp only [telegram, hv]
  rw [hhandle]
  exact takeIn_accounts s _ _

theorem xDelivery_accounts : Handler.Accounts s
    (fun now => messagesIn (jsonBody r) (Inbound.X.messages now)) (fun _ => false)
      (xDelivery s r) := by
  refine accounts_of_payload s (fun e he w => by simp only [xDelivery, he]) fun v hv => ?_
  have hhandle : xDelivery s r = takeIn s (fun now => Inbound.X.messages now v) (.empty 200) := by
    funext w
    simp only [xDelivery, hv]
  rw [hhandle]
  exact takeIn_accounts s _ _

theorem tikTok_accounts : Handler.Accounts s
    (fun now => messagesIn (jsonBody r) fun v => [Inbound.TikTok.message now v]) (fun _ => false)
      (tikTok s r) := by
  refine accounts_of_payload s (fun e he w => by simp only [tikTok, he]) fun v hv => ?_
  have hhandle : tikTok s r =
      takeIn s (fun now => [Inbound.TikTok.message now v]) (.empty 200) := by
    funext w
    simp only [tikTok, hv]
  rw [hhandle]
  exact takeIn_accounts s _ _

theorem widgetPost_accounts : Handler.Accounts s
    (fun now => messagesIn (jsonBody r) fun v => [Inbound.WebChat.message now v]) (fun _ => false)
      (widgetPost s r) := by
  refine accounts_of_payload s (fun e he w => by simp only [widgetPost, he]) fun v hv w hlane => ?_
  have hall := World.ingestAll_accounts (w := w.tick) hlane
    [Inbound.WebChat.message (s.clock w.readings) v]
  rw [ingestAll_singleton] at hall
  simp only [widgetPost, hv]
  split <;> rename_i hw <;> rw [hw] at hall <;> exact hall.of_tick

theorem tally_chooseBot (w : World) : (chooseBot r w).2.tally = w.tally := by
  unfold chooseBot
  split
  · rfl
  · dsimp only
    split <;> rfl

theorem chooseBot_accounts :
    Handler.Accounts s (fun _ => []) (fun _ => false) (chooseBot r) := fun w _ =>
  .of_still (.of_attended_still (tally_chooseBot r w) (chooseBot_takes s r w))

-- ---------------------------------------------------------------------------
-- Replies of operators
-- ---------------------------------------------------------------------------

theorem status_of_textsBody {fields : List Json.TextField} {reply : Http.Reply}
    (h : textsBody fields r = .error reply) : reply.status < 500 := by
  unfold textsBody at h
  split at h
  · cases h
    decide
  · split at h
    · split at h <;> cases h
      decide
    · cases h
      decide
    · cases h
      decide

theorem status_of_operatorRequest {segment : String} {reply : Http.Reply}
    (h : operatorRequest segment r = .error reply) : reply.status < 500 := by
  unfold operatorRequest at h
  cases hname : pathName segment with
  | error e =>
    rw [hname] at h
    cases h
    unfold pathName at hname
    split at hname <;> cases hname
    decide
  | ok id =>
    rw [hname] at h
    cases hmessage : operatorMessage r with
    | ok m =>
      rw [hmessage] at h
      cases h
    | error e =>
      rw [hmessage] at h
      cases h
      unfold operatorMessage at hmessage
      cases htexts : textsBody [⟨"text", false⟩, ⟨"agentId", true⟩] r with
      | ok texts =>
        rw [htexts] at hmessage
        cases hmessage
      | error e =>
        rw [htexts] at hmessage
        cases hmessage
        exact status_of_textsBody r htexts

theorem status_of_prepare {w : World} {id text : String} {f : Fault}
    (h : prepare s w id text = .error f) : f.reply.status < 500 := by
  have hbad : ∀ detail, (Fault.badRequest detail).reply.status < 500 := fun _ =>
    show 400 < 500 by decide
  unfold prepare at h
  split at h
  · cases h
    exact hbad _
  · split at h
    · cases h
      show 404 < 500
      decide
    · unfold deliveryOf at h
      split at h
      · cases h
        exact hbad _
      · split at h
        · cases h
          exact hbad _
        · split at h <;> cases h
          exact hbad _

theorem card_of_prepare {w : World} {id text : String} {d : Delivery}
    (h : prepare s w id text = .ok d) : ∃ c, w.desk.card? id = some c := by
  unfold prepare at h
  split at h
  · cases h
  · split at h
    · cases h
    next c hc => exact ⟨c, hc⟩

theorem status_of_document (v : Option Json) : (Http.Reply.document v).status ≠ 502 := by
  cases v with
  | none =>
    show 500 ≠ 502
    decide
  | some v =>
    show 200 ≠ 502
    decide

/-- The replies of operators that fail are those that are answered with a failure of delivery. -/
theorem operatorSend_accounts (segment : String) :
    Handler.Accounts s (fun _ => [])
      (fun w => (Handler.reply (operatorSend s segment r) w).status == 502)
      (operatorSend s segment r) := by
  intro w _
  have hattended : w.desk.Attended (operatorSend s segment r w).2.desk :=
    operatorSend_takes s r segment w
  have hwell : (operatorSend s segment r w).2.tally = w.tally →
      (Handler.reply (operatorSend s segment r) w).status ≠ 502 →
      w.Accounts s 0 ((Handler.reply (operatorSend s segment r) w).status == 502).toNat
        (operatorSend s segment r w).2 := by
    intro htally hstatus
    rw [beq_eq_false_iff_ne.2 hstatus]
    exact .of_still (.of_attended_still htally hattended)
  have hstill : ∀ reply : Http.Reply, reply.status < 500 →
      operatorSend s segment r w = (.error reply, w) →
      w.Accounts s 0 ((Handler.reply (operatorSend s segment r) w).status == 502).toNat
        (operatorSend s segment r w).2 := by
    intro reply hstatus hsend
    refine hwell (by rw [hsend]) ?_
    rw [Handler.reply, hsend]
    exact Nat.ne_of_lt (Nat.lt_trans hstatus (by decide))
  cases hrequest : operatorRequest segment r with
  | error reply =>
    exact hstill reply (status_of_operatorRequest r hrequest) (by simp only [operatorSend, hrequest])
  | ok x =>
    obtain ⟨id, m⟩ := x
    cases hprepare : prepare s w id (Text.trim m.text) with
    | error f =>
      exact hstill f.reply (status_of_prepare s hprepare) (operatorSend_of_fault hrequest hprepare)
    | ok d =>
      cases hcall : d.channel (w.callsOn d.platform) (.text d.recipient (Text.trim m.text)) with
      | error e =>
        have hsend := operatorSend_of_refused hrequest hprepare hcall
        have hreply : (Handler.reply (operatorSend s segment r) w).status = 502 := by
          rw [Handler.reply, hsend]
          rfl
        dsimp only
        rw [hreply]
        refine ⟨[.deliveryFailed d.platform], .of_attended ?_ hattended ?_, rfl, rfl, Nat.zero_le _⟩
        · rw [hsend]
          rfl
        · exact List.forall_mem_singleton.2 rfl
      | ok receipt =>
        obtain ⟨c, hc⟩ := card_of_prepare s hprepare
        have hsend := operatorSend_of_sent hrequest hprepare hcall
          (Desk.appendOutbound_of_card? hc (.agent m.agentId) (Text.trim m.text))
        refine hwell (by rw [hsend]; rfl) ?_
        rw [Handler.reply, hsend]
        exact status_of_document _

-- ---------------------------------------------------------------------------
-- Answers
-- ---------------------------------------------------------------------------

theorem handler?_accounts {resource : Resource} {method : String} {handle : Handler}
    (h : handler? s r resource method = some handle) :
    Handler.Accounts s (fun now => s.brought r now resource method)
      (fun w => resource.takesReply method && (handle.reply w).status == 502) handle := by
  unfold handler? at h
  dsimp only at h
  split at h <;> cases h
  · exact accounts_still s fun _ => rfl
  · exact accounts_still s fun _ => rfl
  · exact accounts_still s fun _ => rfl
  · exact whatsApp_accounts s r
  · exact metaDelivery_accounts s r
  · exact telegram_accounts s r
  · exact xDelivery_accounts s r
  · exact tikTok_accounts s r
  · exact widgetPost_accounts s r
  · exact accounts_still s fun _ => rfl
  · exact accounts_still s fun _ => rfl
  · exact operatorSend_accounts s r _
  · exact chooseBot_accounts s r

/-- A request for the head of a resource is no reply. -/
theorem takesReply_of_head (resource : Resource) (method : String) :
    resource.takesReply (if method == "HEAD" then "GET" else method) =
      resource.takesReply method := by
  split
  next hhead =>
    rw [eq_of_beq hhead]
    cases resource <;> rfl
  next => rfl

theorem answer_accounts (w : World)
    (hlane : ∃ lane, w.desk.defaultLane s.laneKeyword = .ok lane) :
    w.Accounts s (World.askedFor s (s.takenIn r w)) (s.undelivered r w).toNat
      (s.answer r w).2 := by
  cases hpath : Resource.ofPath? r.path with
  | none =>
    have hanswer : (s.answer r w).2 = w := by simp [Setup.answer, hpath]
    have htaken : s.takenIn r w = [] := by simp [Setup.takenIn, hpath]
    have hdelivered : s.undelivered r w = false := by simp [Setup.undelivered, hpath]
    rw [hanswer, htaken, hdelivered]
    exact .refl w s
  | some resource =>
    have htaken : s.takenIn r w = w.tick.takenIn s (s.brought r (s.clock w.readings) resource
        (if r.method == "HEAD" then "GET" else r.method)) := by simp only [Setup.takenIn, hpath]
    have hundelivered : s.undelivered r w =
        (resource.takesReply (if r.method == "HEAD" then "GET" else r.method) &&
          (s.answer r w).1.status == 502) := by
      simp only [Setup.undelivered, hpath, takesReply_of_head]
    rw [htaken, hundelivered]
    cases hhandle : handler? s r resource (if r.method == "HEAD" then "GET" else r.method) with
    | none =>
      have hanswer : s.answer r w = (.empty 405, w) := by simp only [Setup.answer, hpath, hhandle]
      have hstatus : ((Http.Reply.empty 405).status == 502) = false := rfl
      rw [hanswer, brought_of_no_handler s r hhandle, hstatus, Bool.and_false]
      exact .refl w s
    | some handle =>
      have hworld : (s.answer r w).2 = (handle w).2 := by simp only [Setup.answer, hpath, hhandle]
      have hstatus : (s.answer r w).1.status = (handle.reply w).status := by
        simp only [Setup.answer, hpath, hhandle]
        split <;> rfl
      rw [hworld, hstatus]
      exact handler?_accounts s r hhandle w hlane

-- ---------------------------------------------------------------------------
-- Runs
-- ---------------------------------------------------------------------------

theorem serve_accounts (w : World)
    (hlane : ∃ lane, w.desk.defaultLane s.laneKeyword = .ok lane) (requests : List Http.Request) :
    w.Accounts s (World.askedFor s (s.taken w requests)) (s.failures w requests)
      (s.serve w requests) := by
  induction requests generalizing w with
  | nil => exact .refl w s
  | cons r requests ih =>
    have hlane' : ∃ lane, (s.answer r w).2.desk.defaultLane s.laneKeyword = .ok lane := by
      rwa [Desk.defaultLane_congr (answer_moves s r w).evolves.lanes]
    rw [Setup.taken, World.askedFor, List.countP_append]
    exact (answer_accounts s r w hlane).trans (ih _ hlane')

variable {s} {settings : Settings} {contents : String → Option String}
  {remote : Outbound.Connector → Outbound.Connector.Remote} {clock : Clock} {w : World}

theorem tally_plant {seedFile : Option String} (h : plant seedFile contents = .ok w) :
    w.tally = [] := by
  cases seedFile with
  | none => cases h; rfl
  | some path =>
    simp only [plant] at h
    split at h
    · cases h
    · split at h
      · cases h
      · split at h <;> cases h
        rfl

/-- When the service starts, nothing is on the desk. -/
theorem blank_start (h : settings.start contents remote clock = .ok (s, w)) :
    w.desk.size = 0 ∧ ∀ p, w.desk.linesFrom p = 0 := by
  have hcards := cards_plant (start_ok h).1
  refine ⟨?_, fun p => ?_⟩
  · rw [Desk.size, hcards]
    rfl
  · rw [Desk.linesFrom, hcards]
    rfl

/-- The counters account for the desk and for the turns: cards are counted as they stand on the
desk, messages as contacts' lines on the cards, and turns as texts that a bot was asked to answer.
A send that fails is that of a turn or of an operator's reply, and no turn goes on beyond the limit
of its steps. -/
theorem counters_account (h : settings.start contents remote clock = .ok (s, w))
    (hlane : ∃ lane, w.desk.defaultLane s.laneKeyword = .ok lane) (requests : List Http.Request) :
    let after := s.serve w requests
    let turns := Count.total after.tally "hub_bot_turns_total"
    Count.total after.tally "hub_cards_created_total" = after.desk.size ∧
      (∀ p, Count.shown after.tally (Count.ingressed p).label = after.desk.linesFrom p) ∧
      turns = World.askedFor s (s.taken w requests) ∧
      Count.shown after.tally (Count.botTurn "failed").label + s.failures w requests =
        Count.total after.tally "hub_adapter_errors_total" ∧
      Count.total after.tally "hub_bot_steps_total" ≤ s.rules.maxSteps * turns := by
  intro after turns
  obtain ⟨new, hentered, hreckons⟩ := serve_accounts s w hlane requests
  obtain ⟨hsize, hlines⟩ := blank_start h
  have hnew : after.tally = new := by
    rw [show after.tally = _ from hentered.tally, tally_plant (start_ok h).1, List.nil_append]
  have hturns : turns = World.askedFor s (s.taken w requests) := by
    rw [show turns = _ from Count.total_eq_countP _ _, hnew, Count.counter_turns]
    exact hreckons.turns
  refine ⟨?_, fun p => ?_, hturns, ?_, ?_⟩
  · rw [Count.total_eq_countP, hnew, Count.counter_creations]
    rw [show after.desk.size = _ from hentered.size, hsize, Nat.zero_add]
  · rw [Count.shown_label, hnew]
    rw [show after.desk.linesFrom p = _ from hentered.lines p, hlines, Nat.zero_add]
  · rw [Count.shown_label, Count.total_eq_countP, hnew, Count.counter_failures]
    exact hreckons.failures.symm
  · rw [hturns, Count.total_eq_countP, hnew, Count.counter_steps]
    exact hreckons.steps

-- ---------------------------------------------------------------------------
-- A porter in the lobby
-- ---------------------------------------------------------------------------

/-- A bot that lets everyone pass. -/
def porterText : String :=
  "\x7blanes: [\x7bid: i, name: bandeja\x7d], activeBotId: p, bots: [\x7bid: p, name: p, " ++
    "updatedAt: 2024-01-01T00:00:00Z, flow: \x7bnodes: [\x7bid: s, type: startNode\x7d], " ++
    "edges: []\x7d\x7d]\x7d"

def porterSeed (_ : String) : Option String := some porterText

/-- A visitor who greets the porter twice has two turns and one card. -/
theorem counters_account_porter : ∃ s w, lobby.start porterSeed unreachable dawn = .ok (s, w) ∧
    (∃ lane, w.desk.defaultLane s.laneKeyword = .ok lane) ∧
    (let after := s.serve w [greeting, greeting]
    after.desk.size = 1 ∧ after.desk.linesFrom .webChat = 2 ∧
      Count.total after.tally "hub_cards_created_total" = 1 ∧
      Count.shown after.tally (Count.ingressed .webChat).label = 2 ∧
      Count.total after.tally "hub_bot_turns_total" = 2 ∧
      Count.shown after.tally (Count.botTurn "failed").label +
        s.failures w [greeting, greeting] =
          Count.total after.tally "hub_adapter_errors_total" ∧
      Count.total after.tally "hub_bot_steps_total" ≤ s.rules.maxSteps * 2) := by
  have hrun : (match lobby.start porterSeed unreachable dawn with
      | .ok (s, w) => (w.desk.defaultLane s.laneKeyword).isOk &&
          decide ((s.serve w [greeting, greeting]).desk.size = 1 ∧
            (s.serve w [greeting, greeting]).desk.linesFrom .webChat = 2 ∧
            World.askedFor s (s.taken w [greeting, greeting]) = 2)
      | .error _ => false) = true := by decide +kernel
  cases hstart : lobby.start porterSeed unreachable dawn with
  | error e => rw [hstart] at hrun; cases hrun
  | ok r =>
    obtain ⟨s, w⟩ := r
    rw [hstart] at hrun
    obtain ⟨hok, hfigures⟩ := Bool.and_eq_true_iff.1 hrun
    obtain ⟨hsize, hlines, hasked⟩ := of_decide_eq_true hfigures
    have hlane : ∃ lane, w.desk.defaultLane s.laneKeyword = .ok lane := by
      cases hd : w.desk.defaultLane s.laneKeyword with
      | error e => rw [hd] at hok; cases hok
      | ok lane => exact ⟨lane, rfl⟩
    obtain ⟨hcards, hmessages, hturns, hfailures, hsteps⟩ :=
      counters_account hstart hlane [greeting, greeting]
    rw [hturns, hasked] at hsteps
    exact ⟨s, w, rfl, hlane, hsize, hlines, hcards.trans hsize, (hmessages .webChat).trans hlines,
      hturns.trans hasked, hfailures, hsteps⟩

end Service

end Switchboard
