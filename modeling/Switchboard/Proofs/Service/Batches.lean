import Switchboard.Proofs.Dialogue.Lines
import Switchboard.Proofs.Service.History

/-!
# Batches of messages

As long as there is a lane for new cards, a message with a sender is taken in (`ingest_takes`):
its line goes to the card that the report names, and behind it the lines of the bot that answers,
however its turn ends. So a batch is taken in as a whole, with one line of a contact for each report
(`batch_recorded`).
-/

namespace Switchboard

open Service

-- ---------------------------------------------------------------------------
-- The line of a message
-- ---------------------------------------------------------------------------

namespace Desk

variable {d : Desk} {keyword : String} {lane : Lane}

/-- A message always lands on a card if there is a lane for new ones. -/
theorem receive_lands (hlane : d.defaultLane keyword = .ok lane) (m : Message)
    (now : Time.Instant) :
    ∃ c isNew, d.receive keyword m now = .ok (⟨c.id, isNew⟩, d.withCard c) ∧
      c.entries = d.linesUnder c.id ++ [m.entry] ∧ (isNew = true ↔ d.card? c.id = none) := by
  have hthere : ∀ c, d.card? c.id = some c → ∀ a, a = Arrival.mk c.id false →
      d.receive keyword m now = .ok (a, d.withCard (m.addTo now c)) →
      ∃ c isNew, d.receive keyword m now = .ok (⟨c.id, isNew⟩, d.withCard c) ∧
        c.entries = d.linesUnder c.id ++ [m.entry] ∧ (isNew = true ↔ d.card? c.id = none) := by
    rintro c hc a rfl he
    refine ⟨m.addTo now c, false, he, ?_, ?_⟩
    · rw [Message.addTo_id, linesUnder_of_card? hc]
      rfl
    · simp [hc]
  cases hf : d.find? m.platform m.sender with
  | some c => exact hthere c (find?_some hf).1 _ rfl (receive_of_found hf)
  | none =>
    have he : d.receive keyword m now = _ := receive_of_unknown hf hlane
    -- the id need not be computed
    generalize contactCardId m.platform m.sender = id at he
    cases hc : d.card? id with
    | some c =>
      obtain rfl := id_of_card? hc
      exact hthere c hc _ rfl (he.trans (deposit_of_card? hc))
    | none =>
      refine ⟨m.addTo now (m.blankCard id lane now), true, he.trans (deposit_of_vacant hc rfl), ?_,
        ?_⟩
      · rw [Message.addTo_id, Message.blankCard_id, linesUnder_of_vacant hc]
        rfl
      · simp [hc]

end Desk

-- ---------------------------------------------------------------------------
-- The lines of the bot
-- ---------------------------------------------------------------------------

theorem Entry.author_of_shows {bot : Bot} {p : Option Platform} {lines : List Entry}
    {calls : List Call} (h : List.Forall₂ (fun e call => e.Shows bot p call) lines calls) :
    ∀ e ∈ lines, e.author = .bot (some bot.id) := by
  induction h with
  | nil => simp
  | cons hshows _ ih =>
    intro e he
    rcases List.mem_cons.1 he with rfl | he
    · exact hshows.author
    · exact ih e he

namespace World

variable {w : World} {s : Setup}

theorem runTurn_replies {t : Turn} {c : Card} (h : w.desk.card? t.card.id = some c) (stage : Stage)
    (rules : TurnRules) (introductions : List Introduction) :
    ∃ replies, (∀ e ∈ replies, ∃ bot, e.author = .bot bot) ∧
      ∀ id, (w.runTurn stage rules introductions t).2.desk.linesUnder id =
        w.desk.linesUnder id ++ if t.card.id = id then replies else [] := by
  obtain ⟨made, lines, hshown, -⟩ := shown_actAll (w := w.tick) h stage
    (t.paired_plan rules introductions (stage.clock w.readings))
  obtain ⟨x, c', hx, hc', -, -, hentries⟩ := hshown.card
  refine ⟨lines, fun e he => ⟨_, Entry.author_of_shows hshown.shown e he⟩, fun id => ?_⟩
  rw [runTurn_desk]
  split
  next hid =>
    subst hid
    rw [Desk.linesUnder_of_card? hc', hentries]
    exact congrArg (· ++ lines) (Desk.linesUnder_of_card? hx).symm
  next hid =>
    unfold Desk.linesUnder
    rw [hshown.others id (Ne.symm hid), List.append_nil]
    rfl

theorem answer_replies (w : World) (s : Setup) (m : Message) (a : Arrival) :
    ∃ replies, (∀ e ∈ replies, ∃ bot, e.author = .bot bot) ∧
      ∀ id, (w.answer s m a).2.desk.linesUnder id =
        w.desk.linesUnder id ++ if a.cardId = id then replies else [] := by
  have hnone : ∃ replies : List Entry, (∀ e ∈ replies, ∃ bot, e.author = .bot bot) ∧
      ∀ id, w.desk.linesUnder id = w.desk.linesUnder id ++ if a.cardId = id then replies else [] :=
    ⟨[], by simp, by simp⟩
  unfold answer
  split
  next b channel c _ _ hc =>
    have hid : (w.turnFor s m a b c).card.id = a.cardId := Desk.id_of_card? hc
    obtain ⟨replies, hbot, hlines⟩ := runTurn_replies (w := w.tick)
      (t := w.turnFor s m a b c) (by rw [hid]; exact hc) ⟨channel, m.platform, s.clock⟩ s.rules
      s.introductions
    rw [hid] at hlines
    refine ⟨replies, hbot, ?_⟩
    dsimp only
    split <;> rename_i hw <;> rw [hw] at hlines <;> exact hlines
  next => exact hnone

-- ---------------------------------------------------------------------------
-- Taking in one message
-- ---------------------------------------------------------------------------

/-- What is known of a message that was taken in, of its report and the world it left. -/
structure Took (w : World) (m : Message) (report : Report) (w' : World) : Prop where
  lanes : w'.desk.lanes = w.desk.lanes
  lines : ∃ replies : List Entry, (∀ e ∈ replies, ∃ bot, e.author = .bot bot) ∧
    ∀ id, w'.desk.linesUnder id =
      w.desk.linesUnder id ++ if report.cardId = id then m.entry :: replies else []
  isNew : report.isNew = true ↔ w.desk.card? report.cardId = none
  silent : m.kind ≠ .text → report.outcome = none

theorem receive_takes {lane : Lane} (hlane : w.desk.defaultLane s.laneKeyword = .ok lane)
    (m : Message) : ∃ a w', w.receive s.clock s.laneKeyword m = (.ok a, w') ∧
      w'.desk.lanes = w.desk.lanes ∧
      (∀ id, w'.desk.linesUnder id =
        w.desk.linesUnder id ++ if a.cardId = id then [m.entry] else []) ∧
      (a.isNew = true ↔ w.desk.card? a.cardId = none) := by
  obtain ⟨c, isNew, he, hentries, hnew⟩ := Desk.receive_lands hlane m (s.clock w.readings)
  have hdesk : ∀ w' : World, w'.desk = w.desk.withCard c → w'.desk.lanes = w.desk.lanes ∧
      (∀ id, w'.desk.linesUnder id =
        w.desk.linesUnder id ++ if c.id = id then [m.entry] else []) ∧
      (isNew = true ↔ w.desk.card? c.id = none) := by
    rintro w' hw'
    rw [hw']
    refine ⟨rfl, fun id => ?_, hnew⟩
    rw [Desk.linesUnder_withCard]
    split
    next hid => rw [hentries, hid]
    next => rw [List.append_nil]
  unfold receive onDesk
  simp only [he]
  exact ⟨_, _, rfl, hdesk _ (by split <;> rfl)⟩

/-- A message with a sender is taken in, as long as there is a lane for new cards. -/
theorem ingest_takes {lane : Lane} (hlane : w.desk.defaultLane s.laneKeyword = .ok lane)
    {m : Message} (hsender : Text.isBlank m.sender = false) :
    ∃ report w', w.ingest s m = (.ok report, w') ∧ w.Took m report w' := by
  obtain ⟨a, w₁, he, hlanes, hlines, hnew⟩ :=
    receive_takes (w := w.count (.ingressed m.platform)) hlane m
  unfold ingest
  simp only [hsender, Bool.false_eq_true, if_false, he]
  split
  next htext =>
    obtain ⟨replies, hbot, hreplies⟩ := answer_replies w₁ s m a
    refine ⟨_, _, rfl, ?_, ⟨replies, hbot, fun id => ?_⟩, hnew, fun h => absurd htext h⟩
    · exact (answer_moves s s.laneKeyword w₁ m a).evolves.lanes.trans hlanes
    · rw [hreplies, hlines, List.append_assoc]
      refine congrArg (w.desk.linesUnder id ++ ·) ?_
      split <;> rfl
  next =>
    exact ⟨_, _, rfl, hlanes, ⟨[], by simp, hlines⟩, hnew, fun _ => rfl⟩

-- ---------------------------------------------------------------------------
-- Taking in a batch
-- ---------------------------------------------------------------------------

theorem ingestAll_cons_of_blank {m : Message} (h : Text.isBlank m.sender = true)
    (ms : List Message) : w.ingestAll s (m :: ms) = w.ingestAll s ms := by
  have hm : w.ingest s m = (.error (.badRequest "message has no sender id"), w) := by
    simp [ingest, h]
  rw [ingestAll, hm]

theorem ingestAll_cons_of_ok {m : Message} {ms : List Message} {report : Report}
    {reports : List Report} {w₁ w₂ : World} (hm : w.ingest s m = (.ok report, w₁))
    (hms : w₁.ingestAll s ms = (.ok reports, w₂)) :
    w.ingestAll s (m :: ms) = (.ok (report :: reports), w₂) := by
  rw [ingestAll, hm]
  dsimp only
  rw [hms]

/-- The messages that have a sender. -/
def named (ms : List Message) : List Message := ms.filter fun m => !Text.isBlank m.sender

/-- What is known of a batch that was taken in, of its reports and the world it left. -/
structure Recorded (w : World) (s : Setup) (ms : List Message) (reports : List Report)
    (w' : World) : Prop where
  count : reports.length = (named ms).length
  /-- Lines are added at the end; those of contacts are those of the messages, in their order. -/
  lines : ∀ id, ∃ added, w'.desk.linesUnder id = w.desk.linesUnder id ++ added ∧
    added.filter (·.author == .contact) =
      (((named ms).zip reports).filter (·.2.cardId == id)).map (·.1.entry) ∧
    ∀ e ∈ added, e.author ≠ .contact → ∃ bot, e.author = .bot bot
  /-- The report of a message stands behind those of the messages before it. -/
  each : ∀ before m after, ms = before ++ m :: after → Text.isBlank m.sender = false →
    ∃ earlier report later, reports = earlier ++ report :: later ∧
      (w.ingestAll s before).1 = .ok earlier ∧
      (report.isNew = true ↔ (w.ingestAll s before).2.desk.card? report.cardId = none) ∧
      (m.kind ≠ .text → report.outcome = none)

theorem Recorded.nil (w : World) (s : Setup) : w.Recorded s [] [] w where
  count := rfl
  lines _ := ⟨[], by simp [named]⟩
  each before m after h := by simp at h

theorem Recorded.cons_of_blank {m : Message} {ms : List Message} {reports : List Report}
    {w' : World} (hm : Text.isBlank m.sender = true) (h : w.Recorded s ms reports w') :
    w.Recorded s (m :: ms) reports w' := by
  have hnamed : named (m :: ms) = named ms := by simp [named, hm]
  refine ⟨by rw [hnamed]; exact h.count, by rw [hnamed]; exact h.lines, ?_⟩
  rintro (_ | ⟨b, before⟩) x after hms hx <;> cases hms
  · rw [hm] at hx; cases hx
  · rw [ingestAll_cons_of_blank hm]
    exact h.each before x after rfl hx

theorem Recorded.cons {m : Message} {ms : List Message} {report : Report} {reports : List Report}
    {w₁ w₂ : World} (hm : Text.isBlank m.sender = false)
    (hingest : w.ingest s m = (.ok report, w₁)) (htook : w.Took m report w₁)
    (h : w₁.Recorded s ms reports w₂) : w.Recorded s (m :: ms) (report :: reports) w₂ := by
  have hnamed : named (m :: ms) = m :: named ms := by simp [named, hm]
  refine ⟨by rw [hnamed]; exact congrArg (· + 1) h.count, fun id => ?_, ?_⟩
  · obtain ⟨replies, hbot, hlines⟩ := htook.lines
    obtain ⟨added, hadded, hcontact, hothers⟩ := h.lines id
    have hsilent : replies.filter (·.author == .contact) = [] := by
      refine List.filter_eq_nil_iff.2 fun e he => ?_
      obtain ⟨bot, h⟩ := hbot e he
      simp [h]
    refine ⟨(if report.cardId = id then m.entry :: replies else []) ++ added, ?_, ?_, ?_⟩
    · rw [hadded, hlines, List.append_assoc]
    · rw [hnamed, List.filter_append, hcontact, List.zip_cons_cons]
      by_cases hid : report.cardId = id
      · simp [hid, hsilent, Message.entry]
      · simp [hid]
    · intro e he hne
      rcases List.mem_append.1 he with he | he
      · split at he
        · rcases List.mem_cons.1 he with rfl | he
          · exact absurd rfl hne
          · exact hbot e he
        · simp at he
      · exact hothers e he hne
  · rintro (_ | ⟨b, before⟩) x after hms hx <;> cases hms
    · exact ⟨[], report, reports, rfl, rfl, htook.isNew, htook.silent⟩
    · obtain ⟨earlier, r, later, rfl, hearlier, hr⟩ := h.each before x after rfl hx
      have hbefore : w.ingestAll s (m :: before) =
          (.ok (report :: earlier), (w₁.ingestAll s before).2) :=
        ingestAll_cons_of_ok hingest (Prod.ext hearlier rfl)
      rw [hbefore]
      exact ⟨report :: earlier, r, later, rfl, rfl, hr⟩

/-- As long as there is a lane for new cards a batch is taken in as a whole, with one report and one
line for each message that has a sender. -/
theorem batch_recorded (w : World) (s : Setup) (ms : List Message)
    (hlane : ∃ lane, w.desk.defaultLane s.laneKeyword = .ok lane) :
    ∃ reports w', w.ingestAll s ms = (.ok reports, w') ∧ w.Recorded s ms reports w' := by
  obtain ⟨lane, hlane⟩ := hlane
  induction ms generalizing w with
  | nil => exact ⟨[], w, rfl, .nil w s⟩
  | cons m ms ih =>
    cases hm : Text.isBlank m.sender with
    | true =>
      obtain ⟨reports, w', he, h⟩ := ih w hlane
      exact ⟨reports, w', (ingestAll_cons_of_blank hm ms).trans he, h.cons_of_blank hm⟩
    | false =>
      obtain ⟨report, w₁, hingest, htook⟩ := ingest_takes hlane hm
      have hlane₁ : w₁.desk.defaultLane s.laneKeyword = .ok lane := by
        rw [Desk.defaultLane_congr htook.lanes, hlane]
      obtain ⟨reports, w', he, h⟩ := ih w₁ hlane₁
      exact ⟨report :: reports, w', ingestAll_cons_of_ok hingest he, .cons hm hingest htook h⟩

/-- Two lines of one visitor, and between them one of somebody without a session. -/
theorem batch_recorded_visitor :
    let ms := [Message.ofText .webChat "s1" "Hola", Message.ofText .webChat " " "?",
      Message.ofText .webChat "s1" "Adiós"]
    (∃ lane, lobbyWorld.desk.defaultLane lobbySetup.laneKeyword = .ok lane) ∧
      ∃ reports w', lobbyWorld.ingestAll lobbySetup ms = (.ok reports, w') ∧
        reports.length = 2 ∧ lobbyWorld.Recorded lobbySetup ms reports w' := by
  intro ms
  obtain ⟨reports, w', he, h⟩ := batch_recorded lobbyWorld lobbySetup ms lane_lobby
  exact ⟨lane_lobby, reports, w', he, h.count.trans (by decide +kernel), h⟩

end World

end Switchboard
