import Switchboard.Proofs.Desk.Positions
import Switchboard.Proofs.Service.Refusals

/-!
# Turns of the service

The turns that the service plays, each with the world in which it begins. A message lands on a card
before anybody answers it; the turn that answers is played on that card, by the bot that is active,
on the platform the message came from (`Plays`). What becomes of a message is read here once
(`ingest_cases`).
-/

namespace Switchboard

open Service

/-- A turn as it is played, with the world in which it begins. -/
structure Played where
  world : World
  stage : Stage
  turn : Turn

namespace Played

variable (p : Played) (s : Setup)

def begins : Time.Instant := p.stage.clock p.world.readings

def resumesAt? : Option String := p.turn.resumesAt? s.rules p.begins

def actions : List Action := (p.turn.plan s.rules s.introductions p.begins).actions

/-- The actions of the turn that are carried out. -/
def done : List Action := p.world.tick.carriedOut p.stage p.turn (p.actions s)

def after : World := (p.world.runTurn p.stage s.rules s.introductions p.turn).2

end Played

-- ---------------------------------------------------------------------------
-- What a turn leaves alone
-- ---------------------------------------------------------------------------

def Count.isTurn : Count → Bool
  | .botTurn _ => true
  | _ => false

namespace World

def turnsCounted (w : World) : Nat := w.tally.countP Count.isTurn

theorem turnsCounted_count (w : World) (c : Count) :
    (w.count c).turnsCounted = w.turnsCounted + if c.isTurn then 1 else 0 := by
  unfold turnsCounted count
  rw [List.countP_append, List.countP_singleton]

/-- No bot has changed, and no turn was counted. -/
structure Steady (w w' : World) : Prop where
  roster : w'.roster = w.roster
  turns : w'.turnsCounted = w.turnsCounted

variable {w w' w'' : World} {s : Stage} {t : Turn}

theorem Steady.refl (w : World) : w.Steady w := ⟨rfl, rfl⟩

theorem Steady.trans (h : w.Steady w') (h' : w'.Steady w'') : w.Steady w'' :=
  ⟨h'.roster.trans h.roster, h'.turns.trans h.turns⟩

theorem steady_count {c : Count} (h : c.isTurn = false) : w.Steady (w.count c) := by
  refine ⟨rfl, ?_⟩
  rw [turnsCounted_count, h]
  rfl

theorem steady_changeDesk (w : World) (clock : Clock)
    (act : Desk → Time.Instant → Except DeskError Desk) :
    w.Steady (w.changeDesk clock act).2 := by
  unfold changeDesk onDesk
  dsimp only
  split <;> exact ⟨rfl, rfl⟩

theorem steady_act (w : World) (s : Stage) (t : Turn) (a : Action) :
    w.Steady (w.act s t a).2 := by
  cases a with
  | showRead id => exact ⟨rfl, rfl⟩
  | pause span => exact ⟨rfl, rfl⟩
  | send call =>
    simp only [act, attempt]
    cases s.channel (w.callsOn s.platform) call <;> exact ⟨rfl, rfl⟩
  | countStep kind => exact steady_count rfl
  | _ => simp only [act]; exact steady_changeDesk w s.clock _

theorem steady_actAll (w : World) (s : Stage) (t : Turn) (as : List Action) :
    w.Steady (w.actAll s t as).2 := by
  induction as generalizing w with
  | nil => exact .refl w
  | cons a as ih =>
    have ha := steady_act w s t a
    unfold actAll
    split <;> rename_i h <;> rw [h] at ha
    · exact ha.trans (ih _)
    · exact ha

/-- A turn changes no bot, and is counted once. -/
theorem runTurn_counted (w : World) (s : Stage) (rules : TurnRules)
    (introductions : List Introduction) (t : Turn) :
    (w.runTurn s rules introductions t).2.roster = w.roster ∧
      (w.runTurn s rules introductions t).2.turnsCounted = w.turnsCounted + 1 := by
  have h := steady_actAll w.tick s t (t.plan rules introductions (s.clock w.readings)).actions
  unfold runTurn
  dsimp only
  split <;> rename_i hw <;> rw [hw] at h
  all_goals
    refine ⟨h.roster, ?_⟩
    rw [turnsCounted_count, h.turns]
    rfl

theorem card?_runTurn_of_ne {c : Card}
    (h : w.desk.card? t.card.id = some c) (rules : TurnRules) (introductions : List Introduction)
    {id : String} (hid : id ≠ t.card.id) :
    (w.runTurn s rules introductions t).2.desk.card? id = w.desk.card? id := by
  obtain ⟨_, _, hshown, -⟩ := shown_runTurn h s rules introductions
  exact hshown.others id hid

/-- No card and no bot has changed, no platform was called and no turn was counted. -/
structure AtRest (w w' : World) : Prop extends w.Untouched w' where
  turns : w'.turnsCounted = w.turnsCounted

theorem AtRest.refl (w : World) : w.AtRest w := ⟨.refl w, rfl⟩

theorem atRest_count {c : Count} (h : c.isTurn = false) : w.AtRest (w.count c) :=
  ⟨⟨rfl, rfl, rfl⟩, (steady_count h).turns⟩

theorem AtRest.steady (h : w.AtRest w') : w.Steady w' := ⟨h.roster, h.turns⟩

-- ---------------------------------------------------------------------------
-- Answers
-- ---------------------------------------------------------------------------

/-- The turn on a message that has landed, if it is answered. -/
def turnOn? (w : World) (s : Setup) (m : Message) (a : Arrival) : Option Played :=
  match w.roster.active?, s.channels m.platform, w.desk.card? a.cardId with
  | some b, some channel, some c =>
    some ⟨w.tick, ⟨channel, m.platform, s.clock⟩, w.turnFor s m a b c⟩
  | _, _, _ => none

/-- A turn on a message that has landed: of the active bot, on the card where the message is, and on
the platform it came from. -/
structure Plays (w : World) (s : Setup) (m : Message) (a : Arrival) (p : Played) : Prop where
  world : p.world = w.tick
  platform : p.stage.platform = m.platform
  clock : p.stage.clock = s.clock
  channel : s.channels m.platform = some p.stage.channel
  bot : w.roster.active? = some p.turn.bot
  card : w.desk.card? a.cardId = some p.turn.card
  turn : p.turn = w.turnFor s m a p.turn.bot p.turn.card

variable {s : Setup} {m : Message} {a : Arrival} {p : Played}

theorem plays_of_turnOn? (h : w.turnOn? s m a = some p) : w.Plays s m a p := by
  unfold turnOn? at h
  split at h
  next b channel c hb hchannel hc =>
    cases h
    exact ⟨rfl, rfl, rfl, hchannel, hb, hc, rfl⟩
  next => cases h

theorem Plays.stored (h : w.Plays s m a p) :
    p.world.desk.card? p.turn.card.id = some p.turn.card := by
  rw [h.world, Desk.id_of_card? h.card]
  exact h.card

theorem answer_of_no_turn (h : w.turnOn? s m a = none) : w.answer s m a = (none, w) := by
  unfold answer
  split
  next b channel c hb hchannel hc =>
    rw [turnOn?, hb, hchannel, hc] at h
    cases h
  next => rfl

theorem answer_of_turn (h : w.turnOn? s m a = some p) : (p.after s).AtRest (w.answer s m a).2 := by
  have hplays := plays_of_turnOn? h
  unfold answer
  split
  next b channel c hb hchannel hc =>
    rw [turnOn?, hb, hchannel, hc] at h
    cases h
    unfold Played.after
    dsimp only
    split <;> rename_i hw <;> rw [hw]
    · exact .refl _
    · exact atRest_count rfl
    · exact .refl _
  next hnone => exact (hnone _ _ _ hplays.bot hplays.channel hplays.card).elim

-- ---------------------------------------------------------------------------
-- Messages
-- ---------------------------------------------------------------------------

/-- The turn that answers a message, if it is answered. -/
def turnOf? (w : World) (s : Setup) (m : Message) : Option Played :=
  if Text.isBlank m.sender then none else
  match (w.count (.ingressed m.platform)).receive s.clock s.laneKeyword m with
  | (.error _, _) => none
  | (.ok a, w) => if m.kind = .text then w.turnOn? s m a else none

/-- A message has landed on a card, and nothing else has happened. -/
structure Lands (w : World) (s : Setup) (m : Message) (a : Arrival) (w' : World) : Prop
    extends w.Steady w' where
  receive : w.desk.receive s.laneKeyword m (s.clock w.readings) = .ok (a, w'.desk)
  attempts : w'.attempts = w.attempts

/-- What becomes of a message. -/
inductive Ingested (w : World) (s : Setup) (m : Message) : Except Fault Report → World → Prop
  | refused {f : Fault} {w' : World} (turn : w.turnOf? s m = none) (rest : w.AtRest w') :
    w.Ingested s m (.error f) w'
  /-- The message lands, and nobody answers it. -/
  | unanswered {a : Arrival} {w' : World} (turn : w.turnOf? s m = none)
      (lands : w.Lands s m a w') : w.Ingested s m (.ok ⟨a.cardId, a.isNew, none⟩) w'
  | answered {a : Arrival} {landed w' : World} {p : Played} (outcome : Option Outcome)
      (turn : w.turnOf? s m = some p) (lands : w.Lands s m a landed)
      (plays : landed.Plays s m a p) (rest : (p.after s).AtRest w') :
    w.Ingested s m (.ok ⟨a.cardId, a.isNew, outcome⟩) w'

theorem receive_lands (w : World) (s : Setup) (m : Message) :
    (∃ e w', (w.count (.ingressed m.platform)).receive s.clock s.laneKeyword m = (.error e, w') ∧
        w.AtRest w') ∨
      ∃ a w', (w.count (.ingressed m.platform)).receive s.clock s.laneKeyword m = (.ok a, w') ∧
        w.Lands s m a w' := by
  have hcount : w.Steady (w.count (.ingressed m.platform)) := steady_count rfl
  unfold receive onDesk
  dsimp only
  cases h : (w.count (.ingressed m.platform)).desk.receive s.laneKeyword m
    (s.clock (w.count (.ingressed m.platform)).readings) with
  | error e =>
    exact .inl ⟨e, (w.count (.ingressed m.platform)).tick, rfl, ⟨rfl, rfl, rfl⟩, hcount.turns⟩
  | ok r =>
    obtain ⟨a, d⟩ := r
    refine .inr ⟨a, _, rfl, ?_⟩
    split
    · exact ⟨hcount.trans ⟨rfl, (steady_count rfl).turns⟩, h, rfl⟩
    · exact ⟨⟨rfl, hcount.turns⟩, h, rfl⟩

theorem ingest_cases (w : World) (s : Setup) (m : Message) :
    w.Ingested s m (w.ingest s m).1 (w.ingest s m).2 := by
  by_cases hblank : Text.isBlank m.sender = true
  · simp only [ingest, hblank, if_true]
    exact .refused (by simp [turnOf?, hblank]) (.refl w)
  rcases receive_lands w s m with ⟨e, w', he, hrest⟩ | ⟨a, landed, he, hlands⟩
  · simp only [ingest, hblank, he]
    exact .refused (by simp [turnOf?, hblank, he]) hrest
  have hturn : w.turnOf? s m = if m.kind = .text then landed.turnOn? s m a else none := by
    simp [turnOf?, hblank, he]
  have hingest : w.ingest s m = (.ok ⟨a.cardId, a.isNew,
      (if m.kind = .text then landed.answer s m a else (none, landed)).1⟩,
      (if m.kind = .text then landed.answer s m a else (none, landed)).2) := by
    simp [ingest, hblank, he]
  rw [hingest]
  split at hturn
  next htext =>
    rw [if_pos htext]
    cases hp : landed.turnOn? s m a with
    | none =>
      rw [answer_of_no_turn hp]
      exact .unanswered (hturn.trans hp) hlands
    | some p =>
      exact .answered _ (hturn.trans hp) hlands (plays_of_turnOn? hp) (answer_of_turn hp)
  next htext =>
    rw [if_neg htext]
    exact .unanswered hturn hlands

end World

end Switchboard
