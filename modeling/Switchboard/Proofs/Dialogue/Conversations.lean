import Switchboard.Proofs.Dialogue.Continuation
import Switchboard.Proofs.Flow.Scans

/-!
# Conversations that never stall

A turn finds nowhere to go in three ways only: the flow has no first node, an edge that is followed
leads to no node, or the conversation stands at a node that the flow does not have. In a flow
without faults whose start node leads on the first two do not happen, and the third does not happen
in a conversation that began with this flow, because a turn only ever leaves the conversation at a
node of its flow (`never_stalls`).
-/

namespace Switchboard

-- ---------------------------------------------------------------------------
-- Flows without faults
-- ---------------------------------------------------------------------------

namespace Flow

variable {flow : Flow}

/-- Every edge leads to a node. -/
def Closed (flow : Flow) : Prop := ∀ e ∈ flow.edges, flow.HasNode e.target

theorem closed_of_issues (h : flow.issues = []) : flow.Closed := fun e he =>
  ((issues_eq_nil_iff.1 h).joined e he).2

/-- The scan for the start node of a flow without faults finds the only one. -/
theorem start_of_issues (h : flow.issues = []) {s : Node} (hs : s ∈ flow.nodes)
    (hkind : s.kind = .start) : (flow.nodes.find? fun n => n.kind == .start) = some s := by
  have hmem : s ∈ flow.nodes.filter fun n => n.kind == .start :=
    List.mem_filter.2 ⟨hs, by simp [hkind]⟩
  have hone := (issues_eq_nil_iff.1 h).oneStart
  rw [List.countP_eq_length_filter] at hone
  obtain ⟨x, hx⟩ := List.length_eq_one_iff.1 hone
  rw [hx, List.mem_singleton] at hmem
  rw [← List.head?_filter, hx, hmem]
  rfl

end Flow

-- ---------------------------------------------------------------------------
-- Where edges lead
-- ---------------------------------------------------------------------------

namespace Graph

variable {flow : Flow} {n : Node} {id reply target : String}

theorem hasNode_of_outgoing (h : flow.Closed) {e : Edge} (he : e ∈ (ofFlow flow).outgoing id) :
    flow.HasNode e.target := by
  rw [outgoing_ofFlow] at he
  exact h e (List.mem_filter.1 he).1

theorem hasNode_firstTarget? (h : flow.Closed)
    (ht : (ofFlow flow).firstTarget? id = some target) : flow.HasNode target := by
  obtain ⟨e, he, rfl⟩ := Option.map_eq_some_iff.1 ht
  exact hasNode_of_outgoing h (List.mem_of_head? he)

theorem hasNode_targetOf? (h : flow.Closed) {handle : String}
    (ht : (ofFlow flow).targetOf? id handle = some target) : flow.HasNode target := by
  obtain ⟨e, he, rfl⟩ := Option.map_eq_some_iff.1 ht
  exact hasNode_of_outgoing h (List.mem_of_find?_eq_some he)

theorem hasNode_next? (h : flow.Closed) (ht : (ofFlow flow).next? n = some target) :
    flow.HasNode target := by
  unfold next? at ht
  split at ht
  · rcases Option.or_eq_some_iff.1 ht with ht | ⟨-, ht⟩
    · exact hasNode_targetOf? h ht
    · exact hasNode_firstTarget? h ht
  · exact hasNode_firstTarget? h ht

theorem hasNode_replyTarget? (h : flow.Closed)
    (ht : (ofFlow flow).replyTarget? n id reply = some target) : flow.HasNode target := by
  have houtgoing : ∀ e ∈ (ofFlow flow).outgoing id, flow.HasNode e.target :=
    fun e he => hasNode_of_outgoing h he
  unfold replyTarget? at ht
  split at ht
  next => cases ht
  next e he =>
    obtain rfl := Option.some.inj ht
    exact houtgoing e (he ▸ List.mem_cons_self)
  next e _ _ he =>
    obtain rfl := Option.some.inj ht
    cases hoption : (n.selected? reply).bind ((ofFlow flow).targetOf? id) with
    | none => exact houtgoing e (he ▸ List.mem_cons_self)
    | some chosen =>
      obtain ⟨_, -, hchosen⟩ := Option.bind_eq_some_iff.1 hoption
      exact hasNode_targetOf? h hchosen

/-- The start node of a flow without faults leads to a node of the flow. -/
theorem opening?_of_issues (h : flow.issues = []) {s : Node} {e : Edge} (hs : s ∈ flow.nodes)
    (hkind : s.kind = .start) (he : e ∈ flow.edges) (hsource : e.source = s.id) :
    ∃ first, (ofFlow flow).opening? = some first ∧ flow.HasNode first := by
  obtain ⟨first, hfirst⟩ : ∃ first, (flow.edges.find? fun e => e.source == s.id) = some first :=
    Option.isSome_iff_exists.1 (List.find?_isSome.2 ⟨e, he, beq_iff_eq.2 hsource⟩)
  refine ⟨first.target, ?_, Flow.closed_of_issues h first (List.mem_of_find?_eq_some hfirst)⟩
  rw [opening?_ofFlow, Flow.start_of_issues h hs hkind, Option.bind_some, hfirst, Option.map_some]

theorem walk_ne_idle (h : flow.Closed) (f : Fillings) (recipient : String) (steps : Nat)
    (last : Option String) {next : Option String} (hnext : ∀ id ∈ next, flow.HasNode id) :
    ((ofFlow flow).walk f recipient steps last next).outcome ≠ .idle := by
  induction steps generalizing last next with
  | zero => cases next <;> simp [walk_none, walk_zero]
  | succ steps ih =>
    cases next with
    | none => simp [walk_none]
    | some id =>
      obtain ⟨n, hn⟩ := Flow.exists_node? (hnext id rfl)
      cases hw : n.waits with
      | true => simp [walk_of_waits steps last hn hw]
      | false =>
        rw [walk_of_node? steps last hn hw]
        exact ih (some n.id) fun target ht => hasNode_next? h ht

end Graph

-- ---------------------------------------------------------------------------
-- One turn
-- ---------------------------------------------------------------------------

/-- A position, if there is one, is at a node of the flow or at none. -/
def Flow.Holds (flow : Flow) (p : Option Position) : Prop :=
  ∀ q ∈ p, ∀ id ∈ q.node, flow.HasNode id

namespace Turn

variable {t : Turn} {rules : TurnRules} {introductions : List Introduction} {now : Time.Instant}

theorem hasNode_of_resumesAt? {flow : Flow} (h : flow.Holds t.card.position) {id : String}
    (hid : t.resumesAt? rules now = some id) : flow.HasNode id := by
  obtain ⟨since, hposition⟩ := standsAt_of_resumesAt? hid
  exact h _ hposition id rfl

/-- A turn at a node of its flow goes somewhere. -/
theorem plan_ne_idle (hclosed : t.bot.flow.Closed)
    (hopening : ∃ first, (Graph.ofFlow t.bot.flow).opening? = some first ∧
      t.bot.flow.HasNode first) (hholds : t.bot.flow.Holds t.card.position) :
    (t.plan rules introductions now).outcome ≠ .idle := by
  unfold plan
  cases hid : t.resumesAt? rules now with
  | none =>
    obtain ⟨first, hfirst, hnode⟩ := hopening
    simp only [hfirst]
    refine Graph.walk_ne_idle hclosed _ _ _ _ fun id hid => ?_
    cases hid
    exact hnode
  | some id =>
    obtain ⟨n, hn⟩ := Flow.exists_node? (hasNode_of_resumesAt? hholds hid)
    have hgoes : ∀ f, (t.forward rules f
        ((Graph.ofFlow t.bot.flow).replyTarget? n id t.text)).outcome ≠ .idle := fun f =>
      Graph.walk_ne_idle hclosed f _ _ _ fun _ ht => Graph.hasNode_replyTarget? hclosed ht
    simp only [replyAt, hn, Plan.after]
    split
    · cases n.lesson? introductions t.text with
      | none => exact Outcome.noConfusion
      | some l => exact hgoes _
    · exact hgoes _

/-- A turn writes down nodes of its flow only, whatever flow that is. -/
theorem hasNode_of_mem_plan {id : String}
    (h : .standAt id ∈ (t.plan rules introductions now).actions) : t.bot.flow.HasNode id := by
  have hshape := t.plan_shape rules introductions now
  have hid : id ∈ (t.planWithin rules introductions now rules.maxSteps).actions.filterMap
    Action.node? := List.mem_filterMap.2 ⟨_, h, rfl⟩
  generalize t.planWithin rules introductions now = plan at hshape hid
  cases hshape with
  | @refusal n resumes node question =>
    rw [nodes_eq_nil] at hid
    · cases hid
    · intro a ha
      rcases List.mem_append.1 ha with ha | ha
      · exact Action.moves_of_quiet (quiet_of_mem_greeting ha)
      · exact Action.moves_of_speaks (Node.speaks_of_mem_say ha)
  | nowhere quiet =>
    rw [nodes_eq_nil fun a ha => Action.moves_of_quiet (quiet a ha)] at hid
    cases hid
  | @walk lead quiet f first =>
    simp only [Plan.after, Graph.walk_actions] at hid
    rw [← List.append_assoc, List.filterMap_append, Outcome.nodes_closing, List.append_nil,
      nodes_lead_visits fun a ha => Action.moves_of_quiet (quiet a ha)] at hid
    obtain ⟨n, hn, rfl⟩ := List.mem_map.1 hid
    exact Flow.hasNode_of_node? (Graph.node?_of_mem_path hn)

end Turn

theorem Follows.holds {flow : Flow} {p q : Option Position} {as : List Action}
    (h : Follows p q as) (hp : flow.Holds p) (has : ∀ id, .standAt id ∈ as → flow.HasNode id) :
    flow.Holds q := by
  unfold Follows at h
  cases hlast : (as.filter Action.moves).getLast? with
  | none =>
    rw [hlast] at h
    exact h ▸ hp
  | some a =>
    rw [hlast] at h
    obtain ⟨now, rfl⟩ := h
    have ha : a ∈ as := (List.mem_filter.1 (List.mem_of_getLast? hlast)).1
    cases a with
    | standAt node =>
      rintro _ ⟨⟩ _ ⟨⟩
      exact has node ha
    | finish => rintro _ ⟨⟩ _ ⟨⟩
    | _ => rintro _ ⟨⟩

-- ---------------------------------------------------------------------------
-- Turn after turn
-- ---------------------------------------------------------------------------

/-- A turn, with the world in which it begins and all that it is carried out with. -/
structure Round where
  world : World
  stage : Stage
  rules : TurnRules
  introductions : List Introduction
  turn : Turn

namespace Round

variable {x : Round}

def plan (x : Round) : Plan := x.turn.plan x.rules x.introductions (x.stage.clock x.world.readings)

def result (x : Round) : Except TurnError Outcome :=
  (x.world.runTurn x.stage x.rules x.introductions x.turn).1

def after (x : Round) : World := (x.world.runTurn x.stage x.rules x.introductions x.turn).2

/-- The nodes at which the conversation is saved in the course of the turn. -/
def visits (x : Round) : List String :=
  x.world.visits x.stage x.rules x.introductions x.turn

/-- The position that the turn leaves on its card. -/
def left (x : Round) : Option Position := x.after.desk.position? x.turn.card.id

theorem standAt_of_mem_carriedOut {id : String}
    (h : .standAt id ∈ x.world.tick.carriedOut x.stage x.turn x.plan.actions) :
    x.turn.bot.flow.HasNode id :=
  x.turn.hasNode_of_mem_plan ((World.carriedOut_prefix ..).subset h)

theorem hasNode_of_mem_visits {id : String} (h : id ∈ x.visits) : x.turn.bot.flow.HasNode id := by
  obtain ⟨a, ha, hid⟩ := List.mem_filterMap.1 h
  cases a with
  | standAt node =>
    obtain rfl := Option.some.inj hid
    exact standAt_of_mem_carriedOut ha
  | _ => cases hid

theorem holds_left (hstored : x.world.desk.card? x.turn.card.id = some x.turn.card)
    (hholds : x.turn.bot.flow.Holds x.turn.card.position) : x.turn.bot.flow.Holds x.left := by
  have hfollows : Follows x.turn.card.position x.left
      (x.world.tick.carriedOut x.stage x.turn x.plan.actions) := World.follows_runTurn hstored
  exact hfollows.holds hholds fun id hid => standAt_of_mem_carriedOut hid

theorem result_ne_idle (h : x.plan.outcome ≠ .idle) : x.result ≠ .ok .idle := fun hresult =>
  h (World.runTurn_ok hresult).2

end Round

/-- Turns of one flow on one card. Each finds the card as it is stored by then, with the position
that the turn before it left; whatever else may have happened in between. -/
inductive Conversation (flow : Flow) (cardId : String) : Option Position → List Round → Prop
  | nil (p : Option Position) : Conversation flow cardId p []
  | turn {p : Option Position} {x : Round} {rounds : List Round} (bot : x.turn.bot.flow = flow)
      (card : x.turn.card.id = cardId) (stored : x.world.desk.card? cardId = some x.turn.card)
      (position : x.turn.card.position = p) (onward : Conversation flow cardId x.left rounds) :
      Conversation flow cardId p (x :: rounds)

variable {flow : Flow} {cardId : String} {rounds : List Round}

theorem Conversation.goes_on {p : Option Position} (h : Conversation flow cardId p rounds)
    (hclosed : flow.Closed)
    (hopening : ∃ first, (Graph.ofFlow flow).opening? = some first ∧ flow.HasNode first)
    (hholds : flow.Holds p) :
    ∀ x ∈ rounds, x.result ≠ .ok .idle ∧ (∀ id ∈ x.visits, flow.HasNode id) ∧
      flow.Holds x.left := by
  induction h with
  | nil p => simp
  | @turn p x rounds hbot hcard stored position onward ih =>
    subst hbot hcard position
    have hleft := Round.holds_left stored hholds
    refine List.forall_mem_cons.2 ⟨⟨?_, fun id => Round.hasNode_of_mem_visits, hleft⟩, ih hleft⟩
    exact Round.result_ne_idle (x.turn.plan_ne_idle hclosed hopening hholds)

/-- In a flow without faults whose start node leads on, no turn of a conversation that began without
a position finds nowhere to go, and all positions that are saved are at nodes of the flow. -/
theorem Conversation.never_stalls (h : Conversation flow cardId none rounds)
    (hissues : flow.issues = [])
    (hstart : ∃ s ∈ flow.nodes, s.kind = .start ∧ ∃ e ∈ flow.edges, e.source = s.id) :
    ∀ x ∈ rounds, x.result ≠ .ok .idle ∧ (∀ id ∈ x.visits, ∃ n ∈ flow.nodes, n.id = id) ∧
      ∀ p, x.left = some p → ∀ id, p.node = some id → ∃ n ∈ flow.nodes, n.id = id := by
  obtain ⟨s, hs, hkind, e, he, hsource⟩ := hstart
  exact h.goes_on (Flow.closed_of_issues hissues)
    (Graph.opening?_of_issues hissues hs hkind he hsource) fun _ hp => nomatch hp

def atDoor : Round := ⟨doorWorld, openStage, .standard, [], doorTurn⟩

/-- The visitor gives a name. -/
def answered : Round :=
  ⟨atDoor.after, openStage, .standard, [], atDoor.after.reply doorTurn "Ana"⟩

theorem conversation_door : Conversation doorBot.flow "visitor" none [atDoor, answered] := by
  obtain ⟨c, hc⟩ : ∃ c, atDoor.after.desk.card? "visitor" = some c :=
    Option.isSome_iff_exists.1 (by decide +kernel)
  have hcard : answered.turn.card = c := congrArg (Option.getD · visitor) hc
  have hid : c.id = "visitor" := Desk.id_of_card? hc
  refine .turn rfl rfl rfl rfl (.turn rfl ?_ ?_ ?_ (.nil _))
  · rw [hcard, hid]
  · rw [hcard]
    exact hc
  · rw [hcard]
    exact (Desk.position?_of_card? hc).symm

theorem never_stalls_door :
    doorBot.flow.issues = [] ∧
      (∃ s ∈ doorBot.flow.nodes, s.kind = .start ∧ ∃ e ∈ doorBot.flow.edges, e.source = s.id) ∧
      Conversation doorBot.flow "visitor" none [atDoor, answered] ∧
      answered.result ≠ .ok .idle := by
  have hissues : doorBot.flow.issues = [] := by decide +kernel
  have hstart : ∃ s ∈ doorBot.flow.nodes, s.kind = .start ∧
      ∃ e ∈ doorBot.flow.edges, e.source = s.id :=
    ⟨_, List.mem_cons_self, rfl, _, List.mem_cons_self, rfl⟩
  have h := conversation_door.never_stalls hissues hstart
  exact ⟨hissues, hstart, conversation_door, (h answered (by simp)).1⟩

end Switchboard
