import Switchboard.Proofs.Dialogue.Addresses
import Switchboard.Proofs.Service.Turns

/-!
# Where replies go

A message lands on the card of its sender, which then has the sender's address on the platform of
the message, whatever other addresses or numbers it has. So the bot that answers reaches the person
who wrote, where they wrote, and writes on their card alone (`replies_reach_sender`).
-/

namespace Switchboard

open Service

namespace World

variable {w w' : World} {s : Setup} {m : Message} {a : Arrival} {p : Played}

-- ---------------------------------------------------------------------------
-- The card of the sender
-- ---------------------------------------------------------------------------

theorem Lands.card (h : w.Lands s m a w') :
    ∃ c, w'.desk.card? a.cardId = some c ∧ c.recipient? m.platform = some m.sender ∧
      c.entries = w.desk.linesUnder a.cardId ++ [m.entry] := by
  obtain ⟨c, hid, hdesk, hcard⟩ := Desk.receive_landed h.receive
  refine ⟨m.addTo (s.clock w.readings) c, ?_, m.recipient?_addTo _ c, ?_⟩
  · rw [hdesk, Desk.card?_withCard, Message.addTo_id, if_pos hid]
  · rw [Message.addTo_entries]
    rcases hcard with ⟨-, hc⟩ | ⟨-, hnone, lane, rfl⟩
    · rw [Desk.linesUnder_of_card? hc]
    · rw [Desk.linesUnder_of_vacant hnone]
      rfl

theorem Lands.others (h : w.Lands s m a w') {id : String} (hid : id ≠ a.cardId) :
    w'.desk.card? id = w.desk.card? id := by
  obtain ⟨c, hc, hdesk, -⟩ := Desk.receive_landed h.receive
  rw [hdesk, Desk.card?_withCard, Message.addTo_id, hc, if_neg (Ne.symm hid)]

theorem Lands.positions (h : w.Lands s m a w') : w'.desk.position? = w.desk.position? :=
  Desk.positions_receive h.receive

theorem Plays.recipient {c : Card} (h : w.Plays s m a p) (hc : w.desk.card? a.cardId = some c)
    (hsender : c.recipient? m.platform = some m.sender) : p.turn.recipient = m.sender := by
  obtain rfl : c = p.turn.card := Option.some.inj (hc.symm.trans h.card)
  rw [h.turn]
  show (p.turn.card.recipient? m.platform).getD m.sender = m.sender
  rw [hsender, Option.getD_some]

theorem Plays.messageId (h : w.Plays s m a p) : p.turn.messageId = m.id := by
  rw [h.turn]
  rfl

-- ---------------------------------------------------------------------------
-- Replies
-- ---------------------------------------------------------------------------

/-- What was asked of the platforms for a message. Sends went to its sender and receipts were for the
message itself, on its own platform; if that cannot be reached, nobody was asked for anything and all
conversations stand where they stood. -/
structure Asked (w : World) (s : Setup) (m : Message) (after : World) : Prop where
  calls : ∀ channel, s.channels m.platform = some channel →
    ∃ calls : List Call, (∀ call ∈ calls, call.Concerns m.sender m.id) ∧
      after.attempts = w.attempts ++ answers channel m.platform (w.callsOn m.platform) calls
  unreachable : s.channels m.platform = none →
    after.attempts = w.attempts ∧ after.desk.position? = w.desk.position?

theorem Asked.of_silent (hattempts : w'.attempts = w.attempts)
    (hpositions : w'.desk.position? = w.desk.position?) : w.Asked s m w' where
  calls channel _ := by
    refine ⟨[], by simp, ?_⟩
    rw [hattempts]
    exact (List.append_nil _).symm
  unreachable _ := ⟨hattempts, hpositions⟩

/-- What is known of the replies to a message, of its report and the world it left. -/
structure RepliedTo (w : World) (s : Setup) (m : Message) (result : Except Fault Report)
    (after : World) : Prop extends w.Asked s m after where
  refused : ∀ fault, result = .error fault → w.AtRest after
  /-- The bot is given the card to which the message was appended. -/
  landed : ∀ report, result = .ok report → ∃ d c,
    w.desk.receive s.laneKeyword m (s.clock w.readings) =
        .ok (⟨report.cardId, report.isNew⟩, d) ∧
      d.card? report.cardId = some c ∧
      c.entries = w.desk.linesUnder report.cardId ++ [m.entry] ∧
      match w.turnOf? s m with
      | none => after.desk = d ∧ after.attempts = w.attempts
      | some p => p.world.desk = d ∧ p.turn.card = c ∧ (p.after s).AtRest after
  others : ∀ report, result = .ok report →
    ∀ id, id ≠ report.cardId → after.desk.card? id = w.desk.card? id

theorem Plays.asked {landed after : World} (hlands : w.Lands s m a landed)
    (hplays : landed.Plays s m a p) (hrest : (p.after s).AtRest after) : w.Asked s m after := by
  obtain ⟨c, hc, hsender, -⟩ := hlands.card
  obtain ⟨calls, hconcern, hcalls⟩ := answers_runTurn p.world p.stage s.rules s.introductions p.turn
  rw [hplays.recipient hc hsender, hplays.messageId] at hconcern
  have hbefore : p.world.attempts = w.attempts := by
    rw [hplays.world]
    exact hlands.attempts
  constructor
  · intro channel hchannel
    obtain rfl : channel = p.stage.channel := Option.some.inj (hchannel.symm.trans hplays.channel)
    refine ⟨calls, hconcern, ?_⟩
    rw [hrest.attempts, Played.after, hcalls, hplays.platform, callsOn_congr hbefore, hbefore]
  · intro hnone
    rw [hplays.channel] at hnone
    cases hnone

theorem ingest_replied (w : World) (s : Setup) (m : Message) :
    w.RepliedTo s m (w.ingest s m).1 (w.ingest s m).2 := by
  have h := w.ingest_cases s m
  generalize (w.ingest s m).1 = result at h ⊢
  generalize (w.ingest s m).2 = after at h ⊢
  cases h with
  | refused turn rest =>
    refine ⟨.of_silent rest.attempts (by rw [rest.desk]), fun _ _ => rest, ?_, ?_⟩
    · intro report hreport
      cases hreport
    · intro report hreport
      cases hreport
  | unanswered turn lands =>
    obtain ⟨c, hc, -, hentries⟩ := lands.card
    refine ⟨.of_silent lands.attempts lands.positions, ?_, ?_, ?_⟩
    · intro fault hfault
      cases hfault
    · rintro report ⟨⟩
      refine ⟨_, c, lands.receive, hc, hentries, ?_⟩
      rw [turn]
      exact ⟨rfl, lands.attempts⟩
    · rintro report ⟨⟩ id hid
      exact lands.others hid
  | @answered a landed after p outcome turn lands plays rest =>
    obtain ⟨c, hc, -, hentries⟩ := lands.card
    refine ⟨plays.asked lands rest, ?_, ?_, ?_⟩
    · intro fault hfault
      cases hfault
    · rintro report ⟨⟩
      refine ⟨_, c, lands.receive, hc, hentries, ?_⟩
      rw [turn]
      exact ⟨by rw [plays.world]; rfl, Option.some.inj (plays.card.symm.trans hc), rest⟩
    · rintro report ⟨⟩ id hid
      have hturn : id ≠ p.turn.card.id := by rwa [Desk.id_of_card? plays.card]
      rw [rest.desk, Played.after, card?_runTurn_of_ne plays.stored _ _ hturn, plays.world]
      exact lands.others hid

/-- The channels to other platforms make no difference to a message. -/
theorem ingest_channels {channels : PerPlatform Channel}
    (h : channels m.platform = s.channels m.platform) (w : World) :
    w.ingest { s with channels := channels } m = w.ingest s m := by
  simp only [ingest, answer, h]
  rfl

/-- Bot replies go to the person who just wrote, on the platform where they wrote, and are written on
the card that their message was appended to. -/
theorem replies_reach_sender (w : World) (s : Setup) (m : Message) :
    w.RepliedTo s m (w.ingest s m).1 (w.ingest s m).2 ∧
      ∀ channels : PerPlatform Channel, channels m.platform = s.channels m.platform →
        w.ingest { s with channels := channels } m = w.ingest s m :=
  ⟨w.ingest_replied s m, fun _ h => ingest_channels h w⟩

/-- A contact who is known by the number of a text message, written in another way. -/
def caller : Card :=
  let hello := Message.ofText .sms "+51 999" "Hola"
  hello.addTo ⟨0, 0⟩ (hello.blankCard "caller" ⟨"inbox", "Bandeja", none⟩ ⟨0, 0⟩)

def callerWorld : World :=
  World.start (Desk.empty.withCard caller) (Roster.empty.put doorBot)

def openSetup : Setup := { lobbySetup with channels := fun _ => some openStage.channel }

/-- The reply goes to the number that the message came from. -/
theorem replies_reach_sender_caller :
    let m := Message.ofText .whatsApp "51999" "Hola"
    let after := (callerWorld.ingest openSetup m).2
    (callerWorld.ingest openSetup m).1.toOption.map Report.cardId = some "caller" ∧
      ∃ calls : List Call, calls ≠ [] ∧ (∀ call ∈ calls, call.Concerns "51999" none) ∧
        after.attempts = answers openStage.channel .whatsApp [] calls := by
  intro m after
  obtain ⟨calls, hconcern, hcalls⟩ :=
    (callerWorld.replies_reach_sender openSetup m).1.calls openStage.channel rfl
  refine ⟨by decide +kernel, calls, ?_, hconcern, hcalls⟩
  rintro rfl
  have hcount : after.attempts.length = 1 := by decide +kernel
  rw [show after.attempts = [] from hcalls] at hcount
  cases hcount

end World

end Switchboard
