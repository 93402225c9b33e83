import Switchboard.Proofs.Lists
import Switchboard.Proofs.Roster
import Switchboard.Proofs.Service.Story

/-!
# Resumed conversations

A position does not tell which bot saved it, and it outlives the choice of another bot. So a
conversation is resumed by whichever bot is active, at the node where the last turn that moved it on
its card left it (`resumed_from_last_save`). That was a turn of the same bot unless another one was
chosen since, and then the node of one flow is looked up in another (`resumed_by_another`).
-/

namespace Switchboard

open Service

namespace Played

/-- The last action of the turn that wrote a position. -/
def lastMove? (p : Played) (s : Setup) : Option Action :=
  ((p.done s).filter Action.moves).getLast?

variable {p : Played}

theorem follows (h : p.world.desk.card? p.turn.card.id = some p.turn.card) (s : Setup) :
    Follows p.turn.card.position ((p.after s).desk.position? p.turn.card.id) (p.done s) :=
  World.follows_runTurn h

end Played

/-- The id of the bot that answers after some events, if one with this id answered before. -/
def switched (es : List Event) (botId : String) : String :=
  es.foldl (fun before e => match e with
    | .turn _ => before
    | .choice id => id) botId

theorem switched_append (es es' : List Event) (botId : String) :
    switched (es ++ es') botId = switched es' (switched es botId) := List.foldl_append

theorem switched_of_no_choice {es : List Event} (h : ∀ id, .choice id ∉ es) (botId : String) :
    switched es botId = botId := by
  induction es with
  | nil => rfl
  | cons e es ih =>
    cases e with
    | turn p => exact ih fun id hid => h id (List.mem_cons_of_mem _ hid)
    | choice id => exact absurd List.mem_cons_self (h id)

-- ---------------------------------------------------------------------------
-- Saved positions
-- ---------------------------------------------------------------------------

/-- A position on a card was saved by a turn, and no turn behind it moved the conversation. -/
structure SavedBy (s : Setup) (es : List Event) (cardId : String) (position : Position)
    (earlier : List Event) (q : Played) (later : List Event) : Prop where
  split : es = earlier ++ .turn q :: later
  card : q.turn.card.id = cardId
  moved : ∃ a now, q.lastMove? s = some a ∧ a.position? now = some position
  left : (q.after s).desk.position? cardId = some position
  last : ∀ r, .turn r ∈ later → r.turn.card.id = cardId → r.lastMove? s = none

variable {s : Setup} {w w' : World} {es es' : List Event}

theorem SavedBy.append {cardId : String} {position : Position} {earlier later : List Event}
    {q : Played} (h : SavedBy s es cardId position earlier q later)
    (hes' : ∀ r, .turn r ∈ es' → r.turn.card.id = cardId → r.lastMove? s = none) :
    SavedBy s (es ++ es') cardId position earlier q (later ++ es') where
  split := by rw [h.split, List.append_assoc, List.cons_append]
  card := h.card
  moved := h.moved
  left := h.left
  last r hr hcard := (List.mem_append.1 hr).elim (fun hr => h.last r hr hcard)
    fun hr => hes' r hr hcard

theorem SavedBy.behind_turn {cardId : String} {position : Position} {earlier later : List Event}
    {p q : Played} (h : SavedBy s es cardId position earlier q later)
    (hp : p.turn.card.id = cardId → p.lastMove? s = none) :
    SavedBy s (es ++ [.turn p]) cardId position earlier q (later ++ [.turn p]) := by
  refine h.append ?_
  intro r hr hcard
  obtain rfl : r = p := by simpa using hr
  exact hp hcard

/-- What has happened accounts for the positions and the bot as they are, and for each turn as it
began. -/
structure Accounted (s : Setup) (es : List Event) (w : World) : Prop where
  positions : ∀ id position, w.desk.position? id = some position →
    ∃ earlier q later, SavedBy s es id position earlier q later
  bot : ∀ earlier q later, es = earlier ++ .turn q :: later →
    ∃ b, w.roster.active? = some b ∧ b.id = switched later q.turn.bot.id
  turns : ∀ before p after, es = before ++ .turn p :: after →
    ∀ position, p.turn.card.position = some position →
      ∃ earlier q later, SavedBy s before p.turn.card.id position earlier q later ∧
        p.turn.bot.id = switched later q.turn.bot.id

theorem split_turn {before after : List Event} {p q : Played}
    (h : es ++ [.turn p] = before ++ .turn q :: after) :
    (before = es ∧ q = p ∧ after = []) ∨
      ∃ rest, es = before ++ .turn q :: rest ∧ after = rest ++ [.turn p] := by
  rcases split_append h with ⟨mid, rfl, hmid⟩ | hrest
  · rcases List.cons_eq_append_iff.1 hmid with ⟨rfl, hlast⟩ | ⟨mid, rfl, hnil⟩
    · cases hlast
      exact .inl ⟨List.append_nil es, rfl, rfl⟩
    · simp at hnil
  · exact .inr hrest

namespace Accounted

theorem still (h : Accounted s es w) (positions : w'.desk.position? = w.desk.position?)
    (roster : w'.roster = w.roster) : Accounted s es w' := by
  refine ⟨?_, ?_, h.turns⟩
  · rw [positions]
    exact h.positions
  · rw [roster]
    exact h.bot

theorem choice (h : Accounted s es w) {id : String} {roster : Roster}
    (chosen : w.roster.choose id = .ok roster) :
    Accounted s (es ++ [.choice id]) { w with roster := roster } := by
  have hsplit : ∀ {before p after}, es ++ [.choice id] = before ++ .turn p :: after →
      ∃ rest, es = before ++ .turn p :: rest ∧ after = rest ++ [.choice id] :=
    fun hes => split_within hes (by simp)
  refine ⟨?_, ?_, ?_⟩
  · intro card position hposition
    obtain ⟨earlier, q, later, hsaved⟩ := h.positions card position hposition
    exact ⟨earlier, q, _, hsaved.append (by simp)⟩
  · intro earlier q later hes
    obtain ⟨rest, -, rfl⟩ := hsplit hes
    obtain ⟨b, hb, hid⟩ := Roster.active?_choose chosen
    refine ⟨b, hb, ?_⟩
    rw [hid, switched_append]
    rfl
  · intro before p after hes
    obtain ⟨rest, hes, -⟩ := hsplit hes
    exact h.turns before p rest hes

theorem turn {p : Played} (h : Accounted s es p.world)
    (stored : p.world.desk.card? p.turn.card.id = some p.turn.card)
    (bot : p.world.roster.active? = some p.turn.bot) :
    Accounted s (es ++ [.turn p]) (p.after s) := by
  have hroster : (p.after s).roster = p.world.roster := (World.runTurn_counted ..).1
  refine ⟨?_, ?_, ?_⟩
  · intro card position hposition
    by_cases hcard : p.turn.card.id = card
    · subst hcard
      have hfollows := p.follows stored s
      unfold Follows at hfollows
      cases hmove : p.lastMove? s with
      | none =>
        -- the turn has moved nothing
        rw [← Played.lastMove?, hmove] at hfollows
        have hbefore : p.world.desk.position? p.turn.card.id = some position := by
          rw [Desk.position?_of_card? stored, ← hposition, hfollows]
        obtain ⟨earlier, q, later, hsaved⟩ := h.positions _ _ hbefore
        exact ⟨earlier, q, _, hsaved.behind_turn fun _ => hmove⟩
      | some a =>
        rw [← Played.lastMove?, hmove] at hfollows
        obtain ⟨now, hnow⟩ := hfollows
        exact ⟨es, p, [], rfl, rfl, ⟨a, now, hmove, hnow.symm.trans hposition⟩, hposition, by simp⟩
    · have hbefore : p.world.desk.position? card = some position := by
        rw [← hposition, Desk.position?, Desk.position?, Played.after,
          World.card?_runTurn_of_ne stored _ _ (Ne.symm hcard)]
      obtain ⟨earlier, q, later, hsaved⟩ := h.positions _ _ hbefore
      exact ⟨earlier, q, _, hsaved.behind_turn fun hid => absurd hid hcard⟩
  · intro earlier q later hes
    rw [hroster]
    rcases split_turn hes with ⟨rfl, rfl, rfl⟩ | ⟨rest, hrest, rfl⟩
    · exact ⟨_, bot, rfl⟩
    · obtain ⟨b, hb, hid⟩ := h.bot earlier q rest hrest
      refine ⟨b, hb, ?_⟩
      rw [hid, switched_append]
      rfl
  · intro before r after hes position hposition
    rcases split_turn hes with ⟨rfl, rfl, -⟩ | ⟨rest, hrest, -⟩
    · -- the turn that is played now
      have hbefore : r.world.desk.position? r.turn.card.id = some position := by
        rw [Desk.position?_of_card? stored, hposition]
      obtain ⟨earlier, q, later, hsaved⟩ := h.positions _ _ hbefore
      obtain ⟨b, hb, hid⟩ := h.bot earlier q later hsaved.split
      obtain rfl : b = r.turn.bot := Option.some.inj (hb.symm.trans bot)
      exact ⟨earlier, q, later, hsaved, hid⟩
    · exact h.turns before r rest hrest position hposition

theorem told (hstep : Told s w es' w') (h : Accounted s es w) : Accounted s (es ++ es') w' := by
  induction hstep generalizing es with
  | still desk steady =>
    rw [List.append_nil]
    exact h.still desk.positions steady.roster
  | turn stored bot => exact h.turn stored bot
  | choice chosen => exact h.choice chosen
  | append _ _ ih ih' =>
    rw [← List.append_assoc]
    exact ih' (ih h)

theorem nil (h : ∀ id, w.desk.position? id = none) : Accounted s [] w := by
  refine ⟨?_, ?_, ?_⟩
  · intro id position hposition
    rw [h id] at hposition
    cases hposition
  · intro earlier q later hes
    simp at hes
  · intro before p after hes
    simp at hes

end Accounted

namespace Service

variable {settings : Settings} {contents : String → Option String}
  {remote : Outbound.Connector → Outbound.Connector.Remote} {clock : Clock}

theorem accounted_story (h : settings.start contents remote clock = .ok (s, w))
    (requests : List Http.Request) :
    Accounted s (s.story w requests) (s.serve w requests) := by
  have hstart : Accounted s [] w := by
    refine .nil fun id => Desk.position?_of_vacant ?_
    rw [Desk.card?, cards_plant (start_ok h).1]
    rfl
  have hstory := hstart.told (story_told s w requests)
  rwa [List.nil_append] at hstory

/-- A turn that resumes at a node resumes where the last turn that moved the conversation on its card
left it. Its bot is the one that was chosen last in between, or else the bot of that turn. -/
theorem resumed_from_last_save (h : settings.start contents remote clock = .ok (s, w))
    (requests : List Http.Request) {before after : List Event} {p : Played} {node : String}
    (hstory : s.story w requests = before ++ .turn p :: after)
    (hresumes : p.resumesAt? s = some node) :
    ∃ earlier q later since, p.turn.card.position = some (.activeAt node since) ∧
      SavedBy s before p.turn.card.id (.activeAt node since) earlier q later ∧
      q.lastMove? s = some (.standAt node) ∧
      p.turn.bot.id = switched later q.turn.bot.id ∧
      ((∀ id, .choice id ∉ later) → p.turn.bot.id = q.turn.bot.id) := by
  obtain ⟨since, hposition⟩ := Turn.standsAt_of_resumesAt? hresumes
  obtain ⟨earlier, q, later, hsaved, hbot⟩ :=
    (accounted_story h requests).turns before p after hstory _ hposition
  refine ⟨earlier, q, later, since, hposition, hsaved, ?_, hbot, ?_⟩
  · obtain ⟨a, now, hmove, hnow⟩ := hsaved.moved
    rw [hmove]
    cases a with
    | standAt other => cases hnow; rfl
    | _ => cases hnow
  · intro hnone
    rw [hbot, switched_of_no_choice hnone]

-- ---------------------------------------------------------------------------
-- A relay of bots
-- ---------------------------------------------------------------------------

/-- Each position that is resumed was saved by a turn of the bot that resumes it. -/
def ResumesOwn (s : Setup) (es : List Event) : Prop :=
  ∀ before p after node, es = before ++ .turn p :: after → p.resumesAt? s = some node →
    ∃ since earlier q later,
      SavedBy s before p.turn.card.id (.activeAt node since) earlier q later ∧
        q.turn.bot.id = p.turn.bot.id

/-- Two bots that ask the same question, of which the first answers. -/
def relayText : String :=
  "\x7blanes: [\x7bid: i, name: bandeja\x7d], activeBotId: a, bots: [\x7bid: a, name: a, " ++
    "updatedAt: &t 2024-01-01T00:00:00Z, flow: &f \x7bnodes: [\x7bid: s, type: startNode\x7d, " ++
    "\x7bid: q, type: captureInputNode\x7d], edges: [\x7bsource: s, target: q\x7d]\x7d\x7d, " ++
    "\x7bid: b, name: b, updatedAt: *t, flow: *f\x7d]\x7d"

def relaySeed (_ : String) : Option String := some relayText

def handover : Http.Request where
  method := "PUT"
  path := "/api/bots/active"
  query := ""
  headers := [("content-type", "application/json")]
  body := Text.utf8 "\x7b\"botId\": \"b\"\x7d"

/-- The bot of an event, and for a turn the node at which it resumes. -/
def summary (s : Setup) : Event → String × Option (Option String)
  | .turn p => (p.turn.bot.id, some (p.resumesAt? s))
  | .choice id => (id, none)

theorem turn_of_summary {e : Event} {id : String} {node : Option String}
    (h : summary s e = (id, some node)) :
    ∃ p, e = .turn p ∧ p.turn.bot.id = id ∧ p.resumesAt? s = node := by
  cases e with
  | turn p =>
    simp only [summary, Prod.mk.injEq, Option.some.injEq] at h
    exact ⟨p, rfl, h⟩
  | choice other => simp [summary] at h

theorem choice_of_summary {e : Event} {id : String} (h : summary s e = (id, none)) :
    e = .choice id := by
  cases e with
  | turn p => simp [summary] at h
  | choice other =>
    simp only [summary, Prod.mk.injEq, and_true] at h
    rw [h]

/-- The second bot resumes the conversation of the first. -/
theorem story_relay : ∃ s w p q, lobby.start relaySeed unreachable dawn = .ok (s, w) ∧
    s.story w [greeting, handover, greeting] = [.turn p, .choice "b", .turn q] ∧
    p.turn.bot.id = "a" ∧ q.turn.bot.id = "b" ∧ q.resumesAt? s = some "q" := by
  have hrun : (match lobby.start relaySeed unreachable dawn with
      | .ok (s, w) => decide ((s.story w [greeting, handover, greeting]).map (summary s) =
          [("a", some none), ("b", none), ("b", some (some "q"))])
      | .error _ => false) = true := by decide +kernel
  cases hstart : lobby.start relaySeed unreachable dawn with
  | error e => rw [hstart] at hrun; cases hrun
  | ok r =>
    obtain ⟨s, w⟩ := r
    rw [hstart] at hrun
    have hsummary := of_decide_eq_true hrun
    obtain ⟨e₁, es, hes, h₁, hrest⟩ := List.map_eq_cons_iff.1 hsummary
    obtain ⟨e₂, es, rfl, h₂, hrest⟩ := List.map_eq_cons_iff.1 hrest
    obtain ⟨e₃, es, rfl, h₃, hrest⟩ := List.map_eq_cons_iff.1 hrest
    obtain rfl := List.map_eq_nil_iff.1 hrest
    obtain ⟨p, rfl, hp, -⟩ := turn_of_summary h₁
    obtain rfl := choice_of_summary h₂
    obtain ⟨q, rfl, hq, hresumes⟩ := turn_of_summary h₃
    exact ⟨s, w, p, q, rfl, hes, hp, hq, hresumes⟩

/-- Only the first of the two turns can have saved a position for the second. -/
theorem saved_relay {s : Setup} {p : Played} {cardId : String} {position : Position}
    {earlier later : List Event} {r : Played}
    (h : SavedBy s [.turn p, .choice "b"] cardId position earlier r later) : r = p := by
  have hmem : Event.turn r ∈ [Event.turn p, .choice "b"] := by
    rw [h.split]
    exact List.mem_append_right _ List.mem_cons_self
  simpa using hmem

theorem resumed_from_last_save_relay : ∃ s w p q,
    lobby.start relaySeed unreachable dawn = .ok (s, w) ∧
      s.story w [greeting, handover, greeting] = [.turn p, .choice "b"] ++ .turn q :: [] ∧
      q.resumesAt? s = some "q" ∧ p.turn.bot.id = "a" ∧ q.turn.bot.id = "b" ∧
      p.lastMove? s = some (.standAt "q") := by
  obtain ⟨s, w, p, q, hstart, hstory, hp, hq, hresumes⟩ := story_relay
  have hsplit : s.story w [greeting, handover, greeting] =
    [.turn p, .choice "b"] ++ .turn q :: [] := hstory
  obtain ⟨earlier, r, later, since, -, hsaved, hmove, -⟩ :=
    resumed_from_last_save hstart [greeting, handover, greeting] hsplit hresumes
  obtain rfl := saved_relay hsaved
  exact ⟨s, w, r, q, hstart, hsplit, hresumes, hp, hq, hmove⟩

/-- A position may be resumed by another bot than the one that saved it. -/
theorem resumed_by_another : ¬ ∀ settings contents remote clock s w,
    Settings.start settings contents remote clock = .ok (s, w) →
      ∀ requests, ResumesOwn s (s.story w requests) := by
  intro howned
  obtain ⟨s, w, p, q, hstart, hstory, hp, hq, hresumes⟩ := story_relay
  have hrun := howned _ _ _ _ s w hstart [greeting, handover, greeting]
  obtain ⟨since, earlier, r, later, hsaved, hsame⟩ :=
    hrun [.turn p, .choice "b"] q [] "q" hstory hresumes
  obtain rfl := saved_relay hsaved
  rw [hp, hq] at hsame
  exact absurd hsame (by decide)

end Service

end Switchboard
