import Switchboard.Proofs.Desk.Positions
import Switchboard.Proofs.Dialogue.Shape
import Switchboard.Proofs.Lists

/-!
# Where a conversation stands

The position that a turn leaves on the card agrees with how the turn ended (`position_agrees`). Each
node of a walk is written down before anything is sent from it, so the last position written is that
of the node at which the turn stopped, also if it stopped because a send failed.
-/

namespace Switchboard

-- ---------------------------------------------------------------------------
-- Positions
-- ---------------------------------------------------------------------------

/-- The conversation stands at a node. -/
def StandsAt (node : String) (p : Option Position) : Prop := ∃ now, p = some (.activeAt node now)

/-- The conversation has come to the end of its flow. -/
def HasEnded (p : Option Position) : Prop := ∃ now, p = some (.completedAt now)

/-- The conversation stands at the last of the executed nodes, or where it stood if there is none. -/
def StandsAtLast (before : Option Position) (executed : List String) (after : Option Position) :
    Prop :=
  match executed.getLast? with
  | none => after = before
  | some id => StandsAt id after

theorem Follows.eq_of_quiet {p q : Option Position} {as : List Action} (h : Follows p q as)
    (has : ∀ a ∈ as, a.moves = false) : q = p := by
  unfold Follows at h
  rw [moves_eq_nil has] at h
  exact h

theorem Follows.hasEnded {p q : Option Position} {as : List Action}
    (h : Follows p q (as ++ [.finish])) : HasEnded q := by
  unfold Follows at h
  rw [List.filter_append, List.getLast?_append] at h
  exact h

/-- Where the conversation stands after some visits, the last of which may be broken off. -/
theorem Follows.standsAtLast {p q : Option Position} {as : List Action} {ids : List String}
    (h : Follows p q as) (has : as.filter Action.moves = ids.map Action.standAt) :
    StandsAtLast p ids q := by
  unfold Follows at h
  unfold StandsAtLast
  rw [has, List.getLast?_map] at h
  cases hl : ids.getLast? with
  | none => rw [hl] at h; exact h
  | some id => rw [hl] at h; exact h

theorem StandsAtLast.standsAt {p q : Option Position} {executed : List String} {id : String}
    (h : StandsAtLast p executed q) (hl : executed.getLast? = some id) : StandsAt id q := by
  unfold StandsAtLast at h
  rw [hl] at h
  exact h

/-- A conversation goes on from the node at which it stands. -/
theorem Turn.standsAt_of_resumesAt? {t : Turn} {rules : TurnRules} {now : Time.Instant}
    {id : String} (h : t.resumesAt? rules now = some id) : StandsAt id t.card.position := by
  unfold resumesAt? at h
  split at h
  · cases h
  · obtain ⟨p, hp, hid⟩ := Option.bind_eq_some_iff.1 h
    obtain ⟨hp, hlive⟩ := Option.filter_eq_some_iff.1 hp
    obtain ⟨progress, node, touched⟩ := p
    obtain ⟨hprogress, -⟩ := Bool.and_eq_true_iff.1 hlive
    obtain rfl : progress = .active := by simpa using hprogress
    obtain rfl : node = some id := hid
    exact ⟨touched, hp⟩

-- ---------------------------------------------------------------------------
-- Turns that a refused send breaks off
-- ---------------------------------------------------------------------------

/-- A walk that is broken off is so at a node that was written down and had not done all it does. -/
theorem Turn.split_walk {g : Graph} {f : Fillings} {recipient : String} {steps : Nat}
    {first : Option String} {call : Call} {before after : List Action}
    (h : (g.walk f recipient steps none first).actions = before ++ .send call :: after) :
    ∃ (done : List Node) (n : Node) (part : List Action), n ∈ g.path steps first ∧
      .send call ∈ n.actions f recipient ∧ (∀ a ∈ part, a.moves = false) ∧
      before = done.flatMap (fun n => n.visit f recipient) ++
        .standAt n.id :: .countStep n.kind :: part := by
  rw [Graph.walk_actions] at h
  obtain ⟨rest, h, -⟩ := split_within h (Outcome.send_notMem_closing _ call)
  obtain ⟨done, n, later, part, rest, hpath, rfl, hvisit, -⟩ := split_flatMap h
  have hn : n ∈ g.path steps first := hpath ▸ List.mem_append_right _ List.mem_cons_self
  have hsplit : [.standAt n.id, .countStep n.kind] ++ n.actions f recipient =
      part ++ .send call :: rest := hvisit
  obtain ⟨mid, rfl, hactions⟩ := split_behind hsplit (by simp)
  refine ⟨done, n, mid, hn, ?_, fun a ha => ?_, rfl⟩
  · rw [hactions]; exact List.mem_append_right _ List.mem_cons_self
  · have hmem : a ∈ n.actions f recipient := hactions ▸ List.mem_append_left _ ha
    exact n.moves_of_mem_actions a hmem

-- ---------------------------------------------------------------------------
-- Agreement
-- ---------------------------------------------------------------------------

/-- What is left of a turn: how it ended, the nodes that it executed, the last call that was made on
a platform, and the position on the card. -/
structure Trace where
  result : Except TurnError Outcome
  executed : List String
  call : Option Attempt
  position : Option Position

/-- A turn left the conversation where the way it ended says. -/
def Turn.Agrees (t : Turn) (rules : TurnRules) (x : Trace) : Prop :=
  let g := Graph.ofFlow t.bot.flow
  match x.result with
  | .ok (.suspended id) =>
    x.executed.getLast? = some id ∧ StandsAt id x.position ∧ ∃ n, g.node? id = some n ∧ n.Asks
  | .ok .completed => HasEnded x.position
  | .ok (.invalidAnswer id) =>
    x.executed = [] ∧ StandsAt id t.card.position ∧ x.position = t.card.position
  | .ok (.stepLimit id) =>
    if rules.maxSteps = 0 then x.executed = [] ∧ x.position = t.card.position
    else x.executed.getLast? = some id ∧ StandsAt id x.position
  | .ok .idle => StandsAtLast t.card.position x.executed x.position
  | .error (.delivery _) =>
    ∃ platform call, x.call = some ⟨platform, call, false⟩ ∧
      match x.executed.getLast? with
      | some id =>
        StandsAt id x.position ∧
          ∃ n f, g.node? id = some n ∧ .send call ∈ n.actions f t.recipient
      -- the refusal of an answer could not be sent
      | none =>
        x.position = t.card.position ∧
          ∃ n, g.node? n.id = some n ∧ n.kind = .capture ∧ StandsAt n.id t.card.position ∧
            call = .text t.recipient n.refusal
  | .error (.desk _) => False

theorem Node.getLast?_ids {ns : List Node} {n : Node} (h : ns.getLast? = some n) :
    (ns.map Node.id).getLast? = some n.id := by
  rw [List.getLast?_map, h]
  rfl

namespace Turn

variable {t : Turn} {rules : TurnRules} {now : Time.Instant} {last : Option Attempt}
  {after : Option Position} {before rest : List Action} {call : Call} {platform : Platform}
  {e : DeliveryError}

theorem agrees_walk {lead : List Action} (hlead : ∀ a ∈ lead, a.quiet = true) {f : Fillings}
    {first : Option String} {p : Plan}
    (hp : p = (Graph.ofFlow t.bot.flow).walk f t.recipient rules.maxSteps none first)
    (h : Follows t.card.position after (lead ++ p.actions)) :
    t.Agrees rules
      ⟨.ok p.outcome, (lead ++ p.actions).filterMap Action.node?, last, after⟩ := by
  have hquiet := fun a ha => Action.moves_of_quiet (hlead a ha)
  have hactions : p.actions = ((Graph.ofFlow t.bot.flow).path rules.maxSteps first).flatMap
      (fun n => n.visit f t.recipient) ++ p.outcome.closing := by
    rw [hp]
    exact Graph.walk_actions ..
  rw [hactions] at h ⊢
  cases ho : p.outcome with
  | completed =>
    rw [ho, ← List.append_assoc] at h
    exact h.hasEnded
  | invalidAnswer id =>
    rw [hp] at ho
    exact absurd ho (Graph.walk_ne_invalidAnswer _ _ _ _)
  | suspended id =>
    simp only [ho, Outcome.closing, List.append_nil] at h
    simp only [Outcome.closing, List.append_nil, nodes_lead_visits hquiet]
    rw [hp] at ho
    obtain ⟨n, hn, hw, rfl⟩ := Graph.path_of_suspended ho
    have hlast := Node.getLast?_ids hn
    exact ⟨hlast, (h.standsAtLast (moves_lead_visits hquiet)).standsAt hlast, n,
      Graph.node?_of_mem_path (List.mem_of_getLast? hn), Node.asks_of_waits hw⟩
  | stepLimit id =>
    simp only [ho, Outcome.closing, List.append_nil] at h
    simp only [Outcome.closing, List.append_nil, nodes_lead_visits hquiet]
    have hstands := h.standsAtLast (moves_lead_visits hquiet)
    show if rules.maxSteps = 0 then _ else _
    split
    next hzero =>
      rw [hzero, Graph.path_zero] at hstands ⊢
      exact ⟨rfl, hstands⟩
    next hzero =>
      rw [hp] at ho
      obtain ⟨n, hn, rfl, _⟩ := Graph.last_of_stepLimit (Nat.pos_of_ne_zero hzero) ho
      have hlast := Node.getLast?_ids hn
      exact ⟨hlast, hstands.standsAt hlast⟩
  | idle =>
    simp only [ho, Outcome.closing, List.append_nil] at h
    simp only [Outcome.closing, List.append_nil, nodes_lead_visits hquiet]
    exact h.standsAtLast (moves_lead_visits hquiet)

theorem agrees_broken_walk {lead : List Action} (hlead : ∀ a ∈ lead, a.quiet = true) {f : Fillings}
    {first : Option String}
    (hsplit : lead ++ ((Graph.ofFlow t.bot.flow).walk f t.recipient rules.maxSteps none
      first).actions = before ++ .send call :: rest)
    (h : Follows t.card.position after before) :
    t.Agrees rules ⟨.error (.delivery e), before.filterMap Action.node?,
      some ⟨platform, call, false⟩, after⟩ := by
  have hquiet := fun a ha => Action.moves_of_quiet (hlead a ha)
  obtain ⟨walked, rfl, hwalk⟩ := split_behind hsplit (Action.send_notMem_of_quiet hlead call)
  obtain ⟨done, n, part, hn, hcall, hpart, rfl⟩ := split_walk hwalk
  refine ⟨platform, call, rfl, ?_⟩
  rw [← List.append_assoc] at h ⊢
  rw [List.filterMap_append, nodes_lead_visits hquiet, nodes_visit hpart, List.getLast?_concat]
  have hmoves : ((lead ++ done.flatMap fun n => n.visit f t.recipient) ++
      .standAt n.id :: .countStep n.kind :: part).filter Action.moves =
        (done.map Node.id ++ [n.id]).map Action.standAt := by
    rw [List.filter_append, moves_lead_visits hquiet, moves_visit hpart, List.map_append]
    rfl
  exact ⟨(h.standsAtLast hmoves).standsAt List.getLast?_concat, n, f,
    Graph.node?_of_mem_path hn, hcall⟩

/-- The only send of a refusal is the one that tells it. -/
theorem split_refusal {n : Node}
    (h : t.greeting rules ++ Node.say t.recipient n.refusal = before ++ .send call :: rest) :
    before = t.greeting rules ∧ call = .text t.recipient n.refusal := by
  obtain ⟨mid, rfl, hsay⟩ :=
    split_behind h (Action.send_notMem_of_quiet (fun a ha => quiet_of_mem_greeting ha) call)
  rcases List.cons_eq_append_iff.1 hsay with ⟨rfl, hcall⟩ | ⟨mid, rfl, hnote⟩
  · simp only [List.cons.injEq, Action.send.injEq] at hcall
    exact ⟨List.append_nil _, hcall.1⟩
  · rcases List.cons_eq_append_iff.1 hnote with ⟨rfl, hnote⟩ | ⟨_, rfl, hnil⟩
    · simp at hnote
    · simp at hnil

namespace Shape

variable {plan : Nat → Plan}

/-- A plan that is carried out as a whole. -/
theorem agrees (hplan : t.Shape rules now plan)
    (h : Follows t.card.position after (plan rules.maxSteps).actions) :
    t.Agrees rules ⟨.ok (plan rules.maxSteps).outcome,
      (plan rules.maxSteps).actions.filterMap Action.node?, last, after⟩ := by
  cases hplan with
  | @refusal n resumes node question =>
    have hquiet : ∀ a ∈ t.greeting rules ++ Node.say t.recipient n.refusal, a.moves = false := by
      intro a ha
      rcases List.mem_append.1 ha with ha | ha
      · exact Action.moves_of_quiet (quiet_of_mem_greeting ha)
      · exact Action.moves_of_speaks (Node.speaks_of_mem_say ha)
    exact ⟨nodes_eq_nil hquiet, standsAt_of_resumesAt? resumes, h.eq_of_quiet hquiet⟩
  | @nowhere lead quiet =>
    have hquiet := fun a ha => Action.moves_of_quiet (quiet a ha)
    show StandsAtLast _ (lead.filterMap Action.node?) _
    rw [nodes_eq_nil hquiet]
    exact h.eq_of_quiet hquiet
  | @walk lead quiet f first => exact agrees_walk quiet rfl h

/-- A plan of which a send is refused. -/
theorem agrees_broken (hplan : t.Shape rules now plan)
    (hsplit : (plan rules.maxSteps).actions = before ++ .send call :: rest)
    (h : Follows t.card.position after before) :
    t.Agrees rules ⟨.error (.delivery e), before.filterMap Action.node?,
      some ⟨platform, call, false⟩, after⟩ := by
  cases hplan with
  | @refusal n resumes node question =>
    obtain ⟨rfl, rfl⟩ := split_refusal hsplit
    have hquiet : ∀ a ∈ t.greeting rules, a.moves = false :=
      fun a ha => Action.moves_of_quiet (quiet_of_mem_greeting ha)
    refine ⟨platform, _, rfl, ?_⟩
    rw [nodes_eq_nil hquiet]
    exact ⟨h.eq_of_quiet hquiet, n, node, question, standsAt_of_resumesAt? resumes, rfl⟩
  | @nowhere lead quiet =>
    have hlead : lead = before ++ .send call :: rest := hsplit
    have hmem : .send call ∈ lead := hlead ▸ List.mem_append_right _ List.mem_cons_self
    exact absurd hmem (Action.send_notMem_of_quiet quiet call)
  | @walk lead quiet f first => exact agrees_broken_walk quiet hsplit h

end Shape

end Turn

-- ---------------------------------------------------------------------------
-- Turns as they are run
-- ---------------------------------------------------------------------------

namespace World

variable {w : World} {s : Stage} {rules : TurnRules} {introductions : List Introduction} {t : Turn}

theorem runTurn_result : (w.runTurn s rules introductions t).1 =
    (w.tick.actAll s t (t.plan rules introductions (s.clock w.readings)).actions).1.map
      fun _ => (t.plan rules introductions (s.clock w.readings)).outcome := by
  unfold runTurn
  dsimp only
  split <;> rename_i h <;> rw [h] <;> rfl

theorem runTurn_ok {o : Outcome} (h : (w.runTurn s rules introductions t).1 = .ok o) :
    (w.tick.actAll s t (t.plan rules introductions (s.clock w.readings)).actions).1 = .ok () ∧
      (t.plan rules introductions (s.clock w.readings)).outcome = o := by
  rw [runTurn_result] at h
  cases hr : (w.tick.actAll s t (t.plan rules introductions (s.clock w.readings)).actions).1 with
  | error e => rw [hr] at h; cases h
  | ok _ => rw [hr] at h; exact ⟨rfl, Except.ok.inj h⟩

theorem runTurn_desk : (w.runTurn s rules introductions t).2.desk =
    (w.tick.actAll s t (t.plan rules introductions (s.clock w.readings)).actions).2.desk := by
  unfold runTurn
  dsimp only
  split <;> rename_i h <;> rw [h] <;> rfl

theorem runTurn_attempts : (w.runTurn s rules introductions t).2.attempts =
    (w.tick.actAll s t (t.plan rules introductions (s.clock w.readings)).actions).2.attempts := by
  unfold runTurn
  dsimp only
  split <;> rename_i h <;> rw [h] <;> rfl

/-- The position on the card after a turn is the last that the turn wrote. -/
theorem follows_runTurn (h : w.desk.card? t.card.id = some t.card) :
    Follows t.card.position
      ((w.runTurn s rules introductions t).2.desk.position? t.card.id)
      (w.tick.carriedOut s t (t.plan rules introductions (s.clock w.readings)).actions) := by
  obtain ⟨c, hc, hfollows⟩ := follows_actAll (w := w.tick) h s
    (t.plan rules introductions (s.clock w.readings)).actions
  rw [runTurn_desk, Desk.position?_of_card? hc]
  exact hfollows

/-- What is left of a turn on a card. -/
def trace (w : World) (s : Stage) (rules : TurnRules) (introductions : List Introduction) (t : Turn)
    (after : Card) : Trace where
  result := (w.runTurn s rules introductions t).1
  executed := w.visits s rules introductions t
  call := (w.runTurn s rules introductions t).2.attempts.getLast?
  position := after.position

theorem agrees_of_ok (h : w.desk.card? t.card.id = some t.card)
    (hok : (w.tick.actAll s t (t.plan rules introductions (s.clock w.readings)).actions).1 =
      .ok ()) :
    ∃ c, (w.runTurn s rules introductions t).2.desk.card? t.card.id = some c ∧
      t.Agrees rules (w.trace s rules introductions t c) := by
  have hall := carriedOut_of_ok (w := w.tick) h hok
  obtain ⟨c, hc, hfollows⟩ := follows_actAll (w := w.tick) h s
    (t.plan rules introductions (s.clock w.readings)).actions
  rw [hall] at hfollows
  refine ⟨c, by rw [runTurn_desk]; exact hc, ?_⟩
  unfold trace visits
  rw [runTurn_result, hok, hall]
  exact (t.plan_shape rules introductions (s.clock w.readings)).agrees hfollows

theorem agrees_of_refused (h : w.desk.card? t.card.id = some t.card) {before rest : List Action}
    {call : Call} {e : DeliveryError}
    (hsplit : (t.plan rules introductions (s.clock w.readings)).actions =
      before ++ .send call :: rest)
    (hdone : w.tick.carriedOut s t
      (t.plan rules introductions (s.clock w.readings)).actions = before)
    (herror : (w.tick.actAll s t (t.plan rules introductions (s.clock w.readings)).actions).1 =
      .error (.delivery e))
    (hlast : (w.tick.actAll s t
      (t.plan rules introductions (s.clock w.readings)).actions).2.attempts.getLast? =
        some ⟨s.platform, call, false⟩) :
    ∃ c, (w.runTurn s rules introductions t).2.desk.card? t.card.id = some c ∧
      t.Agrees rules (w.trace s rules introductions t c) := by
  obtain ⟨c, hc, hfollows⟩ := follows_actAll (w := w.tick) h s
    (t.plan rules introductions (s.clock w.readings)).actions
  rw [hdone] at hfollows
  refine ⟨c, by rw [runTurn_desk]; exact hc, ?_⟩
  unfold trace visits
  rw [runTurn_result, runTurn_attempts, herror, hdone, hlast]
  exact (t.plan_shape rules introductions (s.clock w.readings)).agrees_broken hsplit hfollows

/-- The position that a turn leaves on the stored card agrees with how the turn ended, whatever the
flow, the reply and the rules are, and whatever the platform accepts. -/
theorem position_agrees (w : World) (s : Stage) (rules : TurnRules)
    (introductions : List Introduction) (t : Turn) (h : w.desk.card? t.card.id = some t.card) :
    ∃ c, (w.runTurn s rules introductions t).2.desk.card? t.card.id = some c ∧
      t.Agrees rules (w.trace s rules introductions t c) := by
  rcases actAll_cases (w := w.tick) h s
    (t.plan rules introductions (s.clock w.readings)).actions with
    ⟨hok, _⟩ | ⟨before, call, rest, e, hsplit, hdone, herror, hlast⟩
  · exact agrees_of_ok h hok
  · exact agrees_of_refused h hsplit hdone herror hlast

end World

-- ---------------------------------------------------------------------------
-- A door that is not answered
-- ---------------------------------------------------------------------------

/-- A bot that welcomes a visitor and then asks for a name. -/
def doorBot : Bot where
  id := "door"
  name := "Door"
  isActive := true
  updatedAt := ⟨0, 0⟩
  flow := {
    nodes := [⟨"start", .start, Catalog.empty⟩,
      ⟨"welcome", .text, Dictionary.set Catalog.empty "content" (.str "Hola")⟩,
      ⟨"ask", .capture, Catalog.empty⟩]
    edges := [⟨"start", "welcome", none⟩, ⟨"welcome", "ask", none⟩] }

/-- The card of a visitor who said hello. -/
def visitor : Card :=
  let hello := Message.ofText .webChat "s1" "Hola"
  hello.addTo ⟨0, 0⟩ (hello.blankCard "visitor" ⟨"inbox", "Bandeja", none⟩ ⟨0, 0⟩)

def doorTurn : Turn := ⟨doorBot, "s1", visitor, "Hola", none, false⟩

def doorWorld : World := World.start (Desk.empty.withCard visitor) Roster.empty

/-- A stage on which every send is refused. -/
def deafStage : Stage :=
  ⟨fun _ _ => .error (.transport "closed"), .webChat, fun _ => ⟨0, 0⟩⟩

/-- The visitor is left at the node whose message did not go out. -/
theorem position_agrees_unanswered :
    doorWorld.desk.card? doorTurn.card.id = some doorTurn.card ∧
      ∃ c, (doorWorld.runTurn deafStage .standard [] doorTurn).2.desk.card? "visitor" = some c ∧
        StandsAt "welcome" c.position := by
  have hcard : doorWorld.desk.card? doorTurn.card.id = some doorTurn.card := rfl
  obtain ⟨c, hc, h⟩ := World.position_agrees doorWorld deafStage .standard [] doorTurn hcard
  refine ⟨hcard, c, hc, ?_⟩
  have hfailed : (doorWorld.runTurn deafStage .standard [] doorTurn).1.isOk = false := by
    decide +kernel
  have hvisits : doorWorld.visits deafStage .standard [] doorTurn = ["welcome"] := by decide +kernel
  simp only [World.trace, hvisits] at h
  cases hr : (doorWorld.runTurn deafStage .standard [] doorTurn).1 with
  | ok outcome => rw [hr] at hfailed; cases hfailed
  | error e =>
    rw [hr] at h
    cases e with
    | delivery e =>
      obtain ⟨_, _, _, hstands, _⟩ := h
      exact hstands
    | desk e => exact h.elim

end Switchboard
