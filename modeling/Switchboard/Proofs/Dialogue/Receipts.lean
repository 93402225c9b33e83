import Switchboard.Proofs.Dialogue.Addresses
import Switchboard.Proofs.Service.Restarts
import Switchboard.Recorder

/-!
# Receipts

What a platform says to a call that shows a message as read makes no difference to a turn. Two turns
whose sends are answered alike differ in those answers and in the times that they were written at,
and in nothing else (`World.Twins`). The call is made once, and before all others, if the turn goes
on from where the conversation stands and the message has an id (`World.receipt_indifferent`).
-/

namespace Switchboard

-- ---------------------------------------------------------------------------
-- What is left when stamps and receipts are forgotten
-- ---------------------------------------------------------------------------

def Time.epoch : Time.Instant := ⟨0, 0⟩

/-- A line without the time of the service; a contact's line has a time of its own. -/
def Entry.unstamped (e : Entry) : Entry :=
  match e.author with
  | .contact => e
  | _ => { e with sentAt := Time.epoch }

def Position.unstamped (p : Position) : Position := { p with touchedAt := Time.epoch }

/-- A card without the times at which a turn writes on it. -/
def Card.unstamped (c : Card) : Card :=
  { c with
    entries := c.entries.map Entry.unstamped
    position := c.position.map Position.unstamped
    updatedAt := Time.epoch }

/-- An attempt without what the platform said, unless it was to send something. -/
def Attempt.unread (a : Attempt) : Attempt :=
  { a with accepted := if a.call.sends then a.accepted else true }

namespace Card

variable {c c' : Card} {now now' : Time.Instant}

/-- What a turn writes on two cards that differ in their times leaves them so. -/
theorem unstamped_write (t : Turn) (h : c'.unstamped = c.unstamped) (a : Action) :
    (a.write t now' c').unstamped = (a.write t now c).unstamped := by
  simp only [unstamped, Card.mk.injEq] at h ⊢
  cases a with
  | rename name =>
    simp only [Action.write, renamed]
    split <;> simp_all [touch]
  | _ => simp_all [Action.write, touch, append, Desk.outboundEntry, Entry.unstamped,
      Position.unstamped, Position.activeAt, Position.completedAt]

end Card

-- ---------------------------------------------------------------------------
-- Two worlds
-- ---------------------------------------------------------------------------

namespace World

/-- Two worlds that differ in the times on cards, and in what the platforms said to receipts. With
one clock the times are the same. -/
structure Twins (clock clock' : Clock) (w v : World) : Prop where
  cards : ∀ id, (v.desk.card? id).map Card.unstamped = (w.desk.card? id).map Card.unstamped
  lanes : v.desk.lanes = w.desk.lanes
  roster : v.roster = w.roster
  attempts : v.attempts.map Attempt.unread = w.attempts.map Attempt.unread
  pauses : v.pauses = w.pauses
  tally : v.tally = w.tally
  readings : v.readings = w.readings
  desk : clock' = clock → v.desk = w.desk

namespace Twins

variable {clock clock' : Clock} {w v : World}

theorem refl (clock clock' : Clock) (w : World) : Twins clock clock' w w :=
  ⟨fun _ => rfl, rfl, rfl, rfl, rfl, rfl, rfl, fun _ => rfl⟩

theorem tick (h : Twins clock clock' w v) : Twins clock clock' w.tick v.tick :=
  { h with readings := congrArg (· + 1) h.readings }

theorem count (h : Twins clock clock' w v) (x : Count) :
    Twins clock clock' (w.count x) (v.count x) :=
  { h with tally := congrArg (· ++ [x]) h.tally }

theorem pause (h : Twins clock clock' w v) (span : Span) :
    Twins clock clock' (w.pause span) (v.pause span) :=
  { h with pauses := congrArg (· ++ [span]) h.pauses }

/-- The same calls were made. -/
theorem calls (h : Twins clock clock' w v) :
    v.attempts.map (fun a => (a.platform, a.call)) = w.attempts.map fun a => (a.platform, a.call) := by
  have hboth := congrArg (List.map fun a => (a.platform, a.call)) h.attempts
  rwa [List.map_map, List.map_map] at hboth

theorem callsOn (h : Twins clock clock' w v) (p : Platform) : v.callsOn p = w.callsOn p := by
  have hcalls : ∀ attempts : List Attempt,
      (attempts.filter fun a => a.platform == p).map Attempt.call =
        ((attempts.map fun a => (a.platform, a.call)).filter fun x => x.1 == p).map Prod.snd := by
    intro attempts
    rw [List.filter_map, List.map_map]
    rfl
  rw [World.callsOn, World.callsOn, hcalls, hcalls, h.calls]

theorem attempt (h : Twins clock clock' w v) {p : Platform} {call : Call} {accepted accepted' : Bool}
    (hsame : call.sends = true → accepted' = accepted) :
    Twins clock clock' { w with attempts := w.attempts ++ [⟨p, call, accepted⟩] }
      { v with attempts := v.attempts ++ [⟨p, call, accepted'⟩] } := by
  refine { h with attempts := ?_ }
  have hone : Attempt.unread ⟨p, call, accepted'⟩ = Attempt.unread ⟨p, call, accepted⟩ := by
    cases hsends : call.sends with
    | true => rw [hsame hsends]
    | false => simp [Attempt.unread, hsends]
  rw [List.map_append, List.map_append, h.attempts, List.map_singleton, List.map_singleton, hone]

/-- A card that is written alike in both. -/
theorem withCard (h : Twins clock clock' w v) {c c' : Card} (hcard : c'.unstamped = c.unstamped)
    (hsame : clock' = clock → c' = c) :
    Twins clock clock' { w with desk := w.desk.withCard c } { v with desk := v.desk.withCard c' } := by
  have hid : c'.id = c.id := show c'.unstamped.id = c.unstamped.id from congrArg Card.id hcard
  refine { h with cards := ?_, lanes := h.lanes, desk := ?_ }
  · intro id
    show ((v.desk.withCard c').card? id).map _ = ((w.desk.withCard c).card? id).map _
    rw [Desk.card?_withCard, Desk.card?_withCard, hid]
    split
    · rw [Option.map_some, Option.map_some, hcard]
    · exact h.cards id
  · intro hclock
    show v.desk.withCard c' = w.desk.withCard c
    rw [h.desk hclock, hsame hclock]

end Twins

-- ---------------------------------------------------------------------------
-- Turns
-- ---------------------------------------------------------------------------

variable {w v : World} {s s' : Stage} {t : Turn} {a : Action}

/-- Without the card of its turn an action that writes comes to the same in all worlds. -/
theorem act_of_no_card (t : Turn) (ha : a.writes = true) : ∃ result, ∀ (w : World) (s : Stage),
    w.desk.card? t.card.id = none → w.act s t a = (result, w.tick) := by
  cases a with
  | rename name =>
    cases hblank : (Text.trim name).isEmpty with
    | true =>
      refine ⟨.ok (), fun w s _ => ?_⟩
      simp only [act, changeDesk, onDesk, Desk.rename, hblank, if_true]
      rfl
    | false =>
      refine ⟨.error (.desk (.cardNotFound t.card.id)), fun w s h => ?_⟩
      simp only [act, changeDesk, onDesk, Desk.rename, hblank, Bool.false_eq_true, if_false,
        Desk.change_of_none h]
      rfl
  | showRead id => cases ha
  | pause span => cases ha
  | send call => cases ha
  | countStep kind => cases ha
  | _ =>
    refine ⟨.error (.desk (.cardNotFound t.card.id)), fun w s h => ?_⟩
    simp only [act, changeDesk, onDesk, Desk.appendOutbound, Desk.setPosition, Desk.learn,
      Desk.change_of_none h]
    rfl

/-- What is written on the card of a turn is written alike in both worlds. -/
theorem act_twins_of_writes (h : Twins s.clock s'.clock w v) (ha : a.writes = true) :
    (v.act s' t a).1 = (w.act s t a).1 ∧
      Twins s.clock s'.clock (w.act s t a).2 (v.act s' t a).2 := by
  have hcards := h.cards t.card.id
  cases hc : w.desk.card? t.card.id with
  | none =>
    rw [hc, Option.map_none, Option.map_eq_none_iff] at hcards
    obtain ⟨result, hresult⟩ := act_of_no_card t ha
    rw [hresult w s hc, hresult v s' hcards]
    exact ⟨rfl, h.tick⟩
  | some c =>
    rw [hc, Option.map_some, Option.map_eq_some_iff] at hcards
    obtain ⟨c', hc', hcard⟩ := hcards
    rw [act_of_writes hc ha, act_of_writes hc' ha]
    refine ⟨rfl, h.tick.withCard (Card.unstamped_write t hcard a) fun hclock => ?_⟩
    rw [h.desk hclock, hc] at hc'
    rw [Option.some.inj hc', hclock, h.readings]

/-- Two stages on one platform whose channels answer all sends alike; what they say to receipts is
not told. -/
structure SendAlike (s s' : Stage) : Prop where
  platform : s'.platform = s.platform
  sends : ∀ earlier call, call.sends = true → s'.channel earlier call = s.channel earlier call

theorem act_twins (hs : SendAlike s s') (h : Twins s.clock s'.clock w v)
    (ha : ∀ call, a = .send call → call.sends = true) :
    (v.act s' t a).1 = (w.act s t a).1 ∧
      Twins s.clock s'.clock (w.act s t a).2 (v.act s' t a).2 := by
  cases a with
  | showRead id =>
    refine ⟨rfl, ?_⟩
    simp only [act, World.attempt, hs.platform]
    exact h.attempt fun hread => absurd hread Bool.false_ne_true
  | pause span => exact ⟨rfl, h.pause span⟩
  | countStep kind => exact ⟨rfl, h.count _⟩
  | send call =>
    have hanswer : s'.channel (v.callsOn s.platform) call = s.channel (w.callsOn s.platform) call := by
      rw [h.callsOn, hs.sends _ _ (ha call rfl)]
    simp only [act, World.attempt, hs.platform, hanswer]
    cases s.channel (w.callsOn s.platform) call <;> exact ⟨rfl, h.attempt fun _ => rfl⟩
  | _ => exact act_twins_of_writes h rfl

theorem actAll_twins (hs : SendAlike s s') (h : Twins s.clock s'.clock w v) {as : List Action}
    (has : ∀ call, .send call ∈ as → call.sends = true) :
    (v.actAll s' t as).1 = (w.actAll s t as).1 ∧
      Twins s.clock s'.clock (w.actAll s t as).2 (v.actAll s' t as).2 := by
  induction as generalizing w v with
  | nil => exact ⟨rfl, h⟩
  | cons a as ih =>
    obtain ⟨hresult, hact⟩ := act_twins (t := t) hs h (a := a) fun call hcall =>
      has call (hcall ▸ List.mem_cons_self)
    cases ha : (w.act s t a).1 with
    | ok _ =>
      rw [actAll_cons_ok ha, actAll_cons_ok (hresult.trans ha)]
      exact ih hact fun call hcall => has call (List.mem_cons_of_mem _ hcall)
    | error e =>
      rw [actAll_cons_error ha, actAll_cons_error (hresult.trans ha)]
      exact ⟨rfl, hact⟩

end World

namespace World

variable {w v : World} {s s' : Stage} {t : Turn} {rules : TurnRules}

theorem runTurn_twins (hs : SendAlike s s') (h : Twins s.clock s'.clock w v)
    (hresumes : t.resumesAt? rules (s'.clock v.readings) = t.resumesAt? rules (s.clock w.readings))
    (introductions : List Introduction) :
    (v.runTurn s' rules introductions t).1 = (w.runTurn s rules introductions t).1 ∧
      Twins s.clock s'.clock (w.runTurn s rules introductions t).2
        (v.runTurn s' rules introductions t).2 := by
  have hsends : ∀ call, .send call ∈ (t.plan rules introductions (s.clock w.readings)).actions →
      call.sends = true := fun _ => (t.paired_plan rules introductions _).sends
  obtain ⟨hresult, hacts⟩ := actAll_twins (t := t) hs h.tick hsends
  unfold runTurn
  rw [Turn.plan_eq_planFrom, hresumes, ← Turn.plan_eq_planFrom]
  dsimp only
  generalize t.plan rules introductions (s.clock w.readings) = plan at hresult hacts ⊢
  cases hw : w.tick.actAll s t plan.actions with
  | mk result w' =>
    cases hv : v.tick.actAll s' t plan.actions with
    | mk result' v' =>
      rw [hw, hv] at hresult hacts
      obtain rfl : result' = result := hresult
      cases result' with
      | ok _ => exact ⟨rfl, hacts.count _⟩
      | error e => exact ⟨rfl, hacts.count _⟩

end World

-- ---------------------------------------------------------------------------
-- The receipt of a turn
-- ---------------------------------------------------------------------------

namespace Turn

variable {t : Turn} {rules : TurnRules} {introductions : List Introduction} {now : Time.Instant}

/-- The message that a turn shows as read: the one that it answers, if it goes on from where the
conversation stands. -/
def receipt? (t : Turn) (rules : TurnRules) (now : Time.Instant) : Option String :=
  if (t.resumesAt? rules now).isSome then t.messageId else none

theorem call?_of_mem_lesson {l : Lesson} {a : Action} (h : a ∈ l.actions) : a.call? = none := by
  unfold Lesson.actions at h
  split at h <;> simp only [List.mem_cons, List.not_mem_nil, or_false] at h
  · rcases h with rfl | rfl <;> rfl
  · subst h
    rfl

/-- The lead of a turn calls the platform for the receipt alone. -/
theorem lead_receipt (t : Turn) (rules : TurnRules) (introductions : List Introduction)
    (now : Time.Instant) :
    ∃ rest, t.lead rules introductions now =
        ((t.receipt? rules now).map Action.showRead).toList ++ rest ∧
      ∀ a ∈ rest, a.call? = none := by
  have hlesson : ∀ a ∈ ((t.lesson? rules introductions now).map Lesson.actions).getD [],
      a.call? = none := by
    intro a ha
    cases hl : t.lesson? rules introductions now with
    | none => rw [hl] at ha; cases ha
    | some l => rw [hl] at ha; exact call?_of_mem_lesson ha
  unfold lead receipt?
  split
  next =>
    refine ⟨.pause rules.settle :: _, by rw [greeting, List.append_assoc]; rfl, ?_⟩
    intro a ha
    rcases List.mem_cons.1 ha with rfl | ha
    · rfl
    · exact hlesson a ha
  next => exact ⟨_, rfl, hlesson⟩

theorem sends_of_course {f : Fillings} {p : Plan} (h : t.Course rules f p)
    (hsends : ∀ call, .send call ∈ p.actions → call.sends = true) {call : Call}
    (hcall : call ∈ p.actions.filterMap Action.call?) : call.sends = true := by
  obtain ⟨a, ha, hcall⟩ := List.mem_filterMap.1 hcall
  rcases h.mem_cases ha with hspeaks | ⟨id, rfl⟩ | ⟨kind, rfl⟩ | rfl
  · cases a with
    | send x => cases hcall; exact hsends _ ha
    | showRead id => cases hspeaks
    | _ => cases hcall
  · cases hcall
  · cases hcall
  · cases hcall

/-- A turn first shows the message as read, if it does so at all, and behind that only sends. -/
theorem plan_receipt (t : Turn) (rules : TurnRules) (introductions : List Introduction)
    (now : Time.Instant) :
    ∃ rest, (t.plan rules introductions now).actions =
        ((t.receipt? rules now).map Action.showRead).toList ++ rest ∧
      ∀ call ∈ rest.filterMap Action.call?, call.sends = true := by
  obtain ⟨p, hcourse, hplan⟩ := t.plan_course rules introductions now
  obtain ⟨rest, hlead, hrest⟩ := t.lead_receipt rules introductions now
  have hpaired := t.paired_plan rules introductions now
  rw [hplan] at hpaired
  refine ⟨rest ++ p.actions, ?_, ?_⟩
  · rw [hplan, Plan.after, hlead, List.append_assoc]
  · intro call hcall
    rw [List.filterMap_append, List.filterMap_eq_nil_iff.2 hrest, List.nil_append] at hcall
    exact sends_of_course hcourse (fun x hx => hpaired.sends (List.mem_append_right _ hx)) hcall

end Turn

namespace World

/-- What a turn asks of the platform: the receipt, if it gives one, and then to send. -/
theorem receipt_first (w : World) (s : Stage) (rules : TurnRules)
    (introductions : List Introduction) (t : Turn) :
    ∃ sends : List Call, (∀ call ∈ sends, call.sends = true) ∧
      (w.runTurn s rules introductions t).2.attempts =
        w.attempts ++ answers s.channel s.platform (w.callsOn s.platform)
          (((t.receipt? rules (s.clock w.readings)).map Call.read).toList ++ sends) := by
  obtain ⟨rest, hplan, hsends⟩ := t.plan_receipt rules introductions (s.clock w.readings)
  rw [runTurn_attempts, hplan]
  cases t.receipt? rules (s.clock w.readings) with
  | none =>
    obtain ⟨calls, hcalls, hattempts⟩ := answers_actAll w.tick s t rest
    exact ⟨calls, fun call hcall => hsends call (hcalls.subset hcall), hattempts⟩
  | some id =>
    have hact : (w.tick.act s t (.showRead id)).1 = .ok () := rfl
    obtain ⟨calls, hcalls, hattempts⟩ :=
      answers_actAll (w.tick.act s t (.showRead id)).2 s t rest
    refine ⟨calls, fun call hcall => hsends call (hcalls.subset hcall), ?_⟩
    show (w.tick.actAll s t (.showRead id :: rest)).2.attempts = _
    have hread := attempts_act w.tick s t (.showRead id)
    rw [actAll_cons_ok hact, hattempts, callsOn_of_attempt hread, hread, List.append_assoc]
    rfl

/-- Whether a message can be shown as read does not influence a turn: its result, its calls, what is
written on the cards and what is counted are the same, but for the times. The receipt is asked for
once, before all sends, if the turn goes on at a node where the conversation stands and the message
has an id, and otherwise not at all. -/
theorem receipt_indifferent (w : World) (s s' : Stage) (rules : TurnRules)
    (introductions : List Introduction) (t : Turn) (hs : SendAlike s s')
    (hresumes : t.resumesAt? rules (s'.clock w.readings) =
      t.resumesAt? rules (s.clock w.readings)) :
    (w.runTurn s' rules introductions t).1 = (w.runTurn s rules introductions t).1 ∧
      Twins s.clock s'.clock (w.runTurn s rules introductions t).2
        (w.runTurn s' rules introductions t).2 ∧
      ∃ receipts sends : List Call,
        (w.runTurn s rules introductions t).2.attempts =
          w.attempts ++ answers s.channel s.platform (w.callsOn s.platform) (receipts ++ sends) ∧
        (∀ call ∈ sends, call.sends = true) ∧
        receipts = match t.resumesAt? rules (s.clock w.readings), t.messageId with
          | some _, some id => [.read id]
          | _, _ => [] := by
  obtain ⟨hresult, htwins⟩ := runTurn_twins hs (Twins.refl _ _ w) hresumes introductions
  obtain ⟨sends, hsends, hattempts⟩ := w.receipt_first s rules introductions t
  refine ⟨hresult, htwins, _, sends, hattempts, hsends, ?_⟩
  unfold Turn.receipt?
  cases t.resumesAt? rules (s.clock w.readings) with
  | none => rfl
  | some node => cases t.messageId <;> rfl

end World

-- ---------------------------------------------------------------------------
-- An answer at the door
-- ---------------------------------------------------------------------------

def askedWorld : World := World.start (Desk.empty.withCard askedVisitor) Roster.empty

def answerTurn : Turn := ⟨doorBot, "s1", askedVisitor, "Ana", some "m1", false⟩

def doorStage (r : Recorder) (now : Time.Instant) : Stage := ⟨r.channel, .webChat, fun _ => now⟩

/-- The answer is taken up, whether or not it can be shown as read. -/
theorem receipt_indifferent_door :
    let s := doorStage ⟨false, false⟩ ⟨0, 0⟩
    let s' := doorStage ⟨false, true⟩ ⟨1, 0⟩
    World.SendAlike s s' ∧
      answerTurn.resumesAt? .standard (s'.clock 0) = answerTurn.resumesAt? .standard (s.clock 0) ∧
      ((askedWorld.runTurn s .standard [] answerTurn).2.attempts.map Attempt.accepted) = [true] ∧
      ((askedWorld.runTurn s' .standard [] answerTurn).2.attempts.map Attempt.accepted) = [false] ∧
      (askedWorld.runTurn s' .standard [] answerTurn).1 =
        (askedWorld.runTurn s .standard [] answerTurn).1 ∧
      World.Twins s.clock s'.clock (askedWorld.runTurn s .standard [] answerTurn).2
        (askedWorld.runTurn s' .standard [] answerTurn).2 := by
  intro s s'
  have hs : World.SendAlike s s' := by
    refine ⟨rfl, fun earlier call hsends => ?_⟩
    simp [s, s', doorStage, Recorder.channel, Recorder.fault?, hsends]
  have hresumes : answerTurn.resumesAt? .standard (s'.clock 0) =
      answerTurn.resumesAt? .standard (s.clock 0) := by decide +kernel
  obtain ⟨hresult, htwins, -⟩ :=
    askedWorld.receipt_indifferent s s' .standard [] answerTurn hs hresumes
  exact ⟨hs, hresumes, by decide +kernel, by decide +kernel, hresult, htwins⟩

end Switchboard
