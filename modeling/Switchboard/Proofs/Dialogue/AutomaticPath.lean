import Switchboard.Proofs.Dialogue.Continuation
import Switchboard.Proofs.Dialogue.Speech
import Switchboard.Proofs.Flow.Scans

/-!
# The path that a flow takes by itself

From a first node a flow goes on by itself, from node to node, until one of them waits. A turn that
is not broken off goes along this path as far as the nodes are in the flow and the number of steps
allows, and no further; how it ends is told by the last node and by what comes behind it
(`automatic_path`).
-/

namespace Switchboard

-- ---------------------------------------------------------------------------
-- Flows without their index
-- ---------------------------------------------------------------------------

namespace Flow

/-- Where a flow goes on by itself: behind a condition along the first of its edges for `true`, if
there is one, and behind all other nodes along their first edge. -/
def successor? (flow : Flow) (n : Node) : Option String :=
  let leaving := flow.edges.filter fun e => e.source == n.id
  let chosen :=
    if n.kind = .condition then leaving.find? fun e => e.handle == some "true" else none
  (chosen.or leaving.head?).map Edge.target

/-- Nodes that a flow goes through by itself: each is in the flow and leads to the next, and behind
one that waits there is none. -/
inductive Leads (flow : Flow) : Option String → List Node → Prop
  | stop (next : Option String) : Leads flow next []
  | visit {id : String} {n : Node} {ns : List Node} (found : flow.node? id = some n)
      (waits : n.Asks → ns = []) (onward : Leads flow (flow.successor? n) ns) :
      Leads flow (some id) (n :: ns)

def behind (flow : Flow) (next : Option String) (ns : List Node) : Option String :=
  match ns.getLast? with
  | none => next
  | some n => flow.successor? n

def PassesOn (ns : List Node) : Prop := ∀ n, ns.getLast? = some n → ¬ n.Asks

/-- How a walk ends that had a number of steps and went through some nodes; `left` stands for the
last of them if there is none. -/
inductive Ends (flow : Flow) (steps : Nat) (next : Option String) (left : String)
    (ns : List Node) : Outcome → Prop
  | waits {n : Node} (last : ns.getLast? = some n) (asks : n.Asks) :
      Ends flow steps next left ns (.suspended n.id)
  /-- The steps are used up, whether or not what comes behind is in the flow. -/
  | limit {id : String} (passes : PassesOn ns) (onward : flow.behind next ns = some id)
      (full : ns.length = steps) :
      Ends flow steps next left ns (.stepLimit ((ns.getLast?.map Node.id).getD left))
  | lost {id : String} (passes : PassesOn ns) (onward : flow.behind next ns = some id)
      (room : ns.length < steps) (missing : flow.node? id = none) :
      Ends flow steps next left ns .idle
  | ended (passes : PassesOn ns) (closed : flow.behind next ns = none) :
      Ends flow steps next left ns .completed

end Flow

theorem Node.waits_of_asks {n : Node} (h : n.Asks) : n.waits = true := by
  cases h with
  | question hk => simp [waits, hk]
  | buttons hk hb => simp [waits, hk, hb]
  | rows hk hr =>
    rw [ne_eq, allRows_eq_nil_iff] at hr
    simp [waits, hk, hr]

theorem Node.not_asks {n : Node} (h : n.waits = false) : ¬ n.Asks := fun ha => by
  rw [waits_of_asks ha] at h
  cases h

-- ---------------------------------------------------------------------------
-- Walks along the path
-- ---------------------------------------------------------------------------

namespace Flow

variable {flow : Flow} {steps : Nat} {next : Option String} {left : String} {n : Node}
  {ns : List Node} {o : Outcome}

theorem next?_ofFlow (flow : Flow) (n : Node) :
    (Graph.ofFlow flow).next? n = flow.successor? n := by
  unfold Graph.next? Graph.targetOf? Graph.firstTarget? successor?
  rw [Graph.outgoing_ofFlow]
  split
  · rw [← Option.map_or]
  · rfl

theorem leads_path (flow : Flow) (steps : Nat) (next : Option String) :
    flow.Leads next ((Graph.ofFlow flow).path steps next) := by
  induction steps generalizing next with
  | zero => rw [Graph.path_zero]; exact .stop next
  | succ steps ih =>
    cases next with
    | none => rw [Graph.path_none]; exact .stop none
    | some id =>
      cases hn : (Graph.ofFlow flow).node? id with
      | none => rw [Graph.path_of_missing _ hn]; exact .stop (some id)
      | some n =>
        have hfound : flow.node? id = some n := by rw [← node?_ofFlow]; exact hn
        cases hw : n.waits with
        | true =>
          rw [Graph.path_of_waits _ hn hw]
          exact .visit hfound (fun _ => rfl) (.stop _)
        | false =>
          rw [Graph.path_of_node? _ hn hw, next?_ofFlow]
          exact .visit hfound (fun ha => absurd ha (Node.not_asks hw)) (ih _)

theorem length_path_le (flow : Flow) (steps : Nat) (next : Option String) :
    ((Graph.ofFlow flow).path steps next).length ≤ steps := by
  induction steps generalizing next with
  | zero => rw [Graph.path_zero]; exact Nat.le_refl 0
  | succ steps ih =>
    cases next with
    | none => rw [Graph.path_none]; exact Nat.zero_le _
    | some id =>
      cases hn : (Graph.ofFlow flow).node? id with
      | none => rw [Graph.path_of_missing _ hn]; exact Nat.zero_le _
      | some n =>
        cases hw : n.waits with
        | true => rw [Graph.path_of_waits _ hn hw]; exact Nat.succ_le_succ (Nat.zero_le _)
        | false => rw [Graph.path_of_node? _ hn hw]; exact Nat.succ_le_succ (ih _)

/-- Nodes that the flow leads through are visited, as far as the number of steps allows. -/
theorem Leads.prefix_path (h : flow.Leads next ns) (hlength : ns.length ≤ steps) :
    ns <+: (Graph.ofFlow flow).path steps next := by
  induction h generalizing steps with
  | stop => exact List.nil_prefix
  | @visit id n ns found waits onward ih =>
    rw [List.length_cons] at hlength
    obtain ⟨steps, rfl⟩ := Nat.exists_eq_add_of_le' (Nat.lt_of_lt_of_le (Nat.succ_pos _) hlength)
    have hn : (Graph.ofFlow flow).node? id = some n := by rw [node?_ofFlow]; exact found
    cases hw : n.waits with
    | true =>
      have hns : ns = [] := waits (Node.asks_of_waits hw)
      exact ⟨[], by rw [Graph.path_of_waits _ hn hw, hns, List.append_nil]⟩
    | false =>
      rw [Graph.path_of_node? _ hn hw, next?_ofFlow, List.prefix_cons_inj]
      exact ih (Nat.le_of_succ_le_succ hlength)

theorem behind_cons (flow : Flow) (n : Node) (ns : List Node) :
    flow.behind next (n :: ns) = flow.behind (flow.successor? n) ns := by
  unfold behind
  rw [List.getLast?_cons]
  cases ns.getLast? <;> rfl

theorem PassesOn.cons (hw : n.waits = false) (h : PassesOn ns) : PassesOn (n :: ns) := by
  intro m hm
  rw [List.getLast?_cons] at hm
  cases hl : ns.getLast? with
  | none =>
    rw [hl] at hm
    obtain rfl : n = m := Option.some.inj hm
    exact Node.not_asks hw
  | some x =>
    rw [hl] at hm
    obtain rfl : x = m := Option.some.inj hm
    exact h x hl

/-- A walk that goes on behind a node ends as the walk from there. -/
theorem Ends.cons (hw : n.waits = false)
    (h : flow.Ends steps (flow.successor? n) n.id ns o) :
    flow.Ends (steps + 1) next left (n :: ns) o := by
  cases h with
  | @waits m last asks => exact .waits (by rw [List.getLast?_cons, last]; rfl) asks
  | limit passes onward full =>
    have hlast : ((n :: ns).getLast?.map Node.id).getD left =
        (ns.getLast?.map Node.id).getD n.id := by
      rw [List.getLast?_cons]
      cases ns.getLast? <;> rfl
    rw [← hlast]
    refine .limit (passes.cons hw) ((flow.behind_cons n ns).trans onward) ?_
    rw [List.length_cons, full]
  | lost passes onward room missing =>
    exact .lost (passes.cons hw) ((flow.behind_cons n ns).trans onward)
      (by rw [List.length_cons]; omega) missing
  | ended passes closed => exact .ended (passes.cons hw) ((flow.behind_cons n ns).trans closed)

theorem ends_walk (flow : Flow) (f : Fillings) (recipient : String) (steps : Nat)
    (last : Option String) (next : Option String) :
    flow.Ends steps next (last.getD (next.getD "")) ((Graph.ofFlow flow).path steps next)
      ((Graph.ofFlow flow).walk f recipient steps last next).outcome := by
  have hnil : PassesOn [] := fun _ h => nomatch h
  induction steps generalizing last next with
  | zero =>
    rw [Graph.path_zero]
    cases next with
    | none => exact .ended hnil rfl
    | some id =>
      have hbehind : flow.behind (some id) [] = some id := rfl
      exact .limit hnil hbehind rfl
  | succ steps ih =>
    cases next with
    | none => rw [Graph.path_none, Graph.walk_none]; exact .ended hnil rfl
    | some id =>
      cases hn : (Graph.ofFlow flow).node? id with
      | none =>
        rw [Graph.path_of_missing _ hn, Graph.walk_of_missing _ _ hn]
        exact .lost hnil rfl (Nat.succ_pos _) (by rw [← node?_ofFlow]; exact hn)
      | some n =>
        cases hw : n.waits with
        | true =>
          rw [Graph.path_of_waits _ hn hw, Graph.walk_of_waits _ _ hn hw]
          exact .waits rfl (Node.asks_of_waits hw)
        | false =>
          rw [Graph.path_of_node? _ hn hw, Graph.walk_of_node? _ _ hn hw]
          have h := ih (some n.id) ((Graph.ofFlow flow).next? n)
          rw [next?_ofFlow] at h ⊢
          exact h.cons hw

end Flow

-- ---------------------------------------------------------------------------
-- Turns that are not broken off
-- ---------------------------------------------------------------------------

/-- Every send is carried out on this stage; to show a message as read may fail. -/
def Stage.AcceptsSends (s : Stage) : Prop :=
  ∀ made call, call.sends = true → (s.channel made call).isOk = true

theorem Graph.calls_walk (g : Graph) (f : Fillings) (recipient : String) (steps : Nat)
    (last next : Option String) :
    (g.walk f recipient steps last next).actions.filterMap Action.call? =
      (g.path steps next).flatMap fun n => n.calls f recipient := by
  rw [walk_actions, List.filterMap_append, Node.calls_flatMap_visit]
  cases (g.walk f recipient steps last next).outcome <;> exact List.append_nil _

namespace Turn

variable {t : Turn} {rules : TurnRules} {introductions : List Introduction} {now : Time.Instant}

theorem sends_eq_nil_of_quiet {as : List Action} (h : ∀ a ∈ as, a.quiet = true) :
    (as.filterMap Action.call?).filter Call.sends = [] := by
  refine List.filter_eq_nil_iff.2 fun call hc => ?_
  obtain ⟨a, ha, hcall⟩ := List.mem_filterMap.1 hc
  have hquiet := h a ha
  cases a with
  | showRead id => cases hcall; exact Bool.false_ne_true
  | send call => exact absurd hquiet Bool.false_ne_true
  | _ => cases hcall

/-- A turn plans one send for each step that it may take, or the one that tells of a refusal. -/
theorem length_sends_plan (t : Turn) (rules : TurnRules) (introductions : List Introduction)
    (now : Time.Instant) :
    let sends := ((t.plan rules introductions now).actions.filterMap Action.call?).filter Call.sends
    sends.length ≤ rules.maxSteps ∨
      (∃ id, (t.plan rules introductions now).outcome = .invalidAnswer id) ∧ sends.length = 1 := by
  have hshape := t.plan_shape rules introductions now
  have hplan : t.plan rules introductions now =
    t.planWithin rules introductions now rules.maxSteps := rfl
  rw [hplan]
  generalize t.planWithin rules introductions now = plan at hshape ⊢
  cases hshape with
  | @refusal n _ _ _ =>
    refine .inr ⟨⟨n.id, rfl⟩, ?_⟩
    have hgreeting : ∀ a ∈ t.greeting rules, a.quiet = true := fun _ ha => quiet_of_mem_greeting ha
    have hquiet := sends_eq_nil_of_quiet hgreeting
    rw [List.filterMap_append, List.filter_append, hquiet]
    rfl
  | nowhere quiet =>
    refine .inl ?_
    rw [sends_eq_nil_of_quiet quiet]
    exact Nat.zero_le _
  | @walk lead quiet f first =>
    refine .inl ?_
    simp only [Plan.after, List.filterMap_append, List.filter_append, sends_eq_nil_of_quiet quiet,
      List.nil_append, Graph.calls_walk]
    calc _ ≤ _ := List.length_filter_le ..
      _ ≤ _ := Node.length_flatMap_calls_le _
      _ ≤ rules.maxSteps := Flow.length_path_le ..

end Turn

namespace World

variable {w : World} {s : Stage} {t : Turn} {c : Card}

theorem act_send_ok (hs : s.AcceptsSends) {call : Call} (hc : call.sends = true) :
    (w.act s t (.send call)).1 = .ok () := by
  have h := hs (w.callsOn s.platform) call hc
  simp only [act, attempt]
  cases hr : s.channel (w.callsOn s.platform) call with
  | ok receipt => rfl
  | error e => rw [hr] at h; cases h

theorem actAll_of_accepts (h : w.desk.card? t.card.id = some c) (hs : s.AcceptsSends)
    {as : List Action} (has : Paired as) : (w.actAll s t as).1 = .ok () := by
  have hsends : ∀ call, .send call ∈ as → call.sends = true := fun _ hc => has.sends hc
  clear has
  induction as generalizing w c with
  | nil => rfl
  | cons a as ih =>
    have ha : (w.act s t a).1 = .ok () := by
      rcases act_cases (s := s) (a := a) h with ha | ⟨call, e, rfl, -⟩
      · exact ha
      · exact act_send_ok hs (hsends call List.mem_cons_self)
    rw [actAll_cons_ok ha]
    exact ih (card?_act h) fun call hc => hsends call (List.mem_cons_of_mem _ hc)

/-- What a walk has done that was carried out from a first node on. -/
structure WentThrough (w : World) (s : Stage) (rules : TurnRules) (t : Turn) (f : Fillings)
    (first : String) (ns : List Node) : Prop where
  leads : t.bot.flow.Leads (some first) ns
  within : ns.length ≤ rules.maxSteps
  longest : ∀ ms, t.bot.flow.Leads (some first) ms → ms.length ≤ rules.maxSteps → ms <+: ns
  succeeds : (w.actAll s t (t.forward rules f (some first)).actions).1 = .ok ()
  executes : (w.carriedOut s t (t.forward rules f (some first)).actions).filterMap Action.node? =
    ns.map Node.id
  ends : t.bot.flow.Ends rules.maxSteps (some first) first ns
    (t.forward rules f (some first)).outcome
  calls : ∃ made, (w.actAll s t (t.forward rules f (some first)).actions).2.attempts =
      w.attempts ++ made ∧
    made.map Attempt.call = ns.flatMap fun n => n.calls f t.recipient

theorem wentThrough (h : w.desk.card? t.card.id = some c) (hs : s.AcceptsSends) (rules : TurnRules)
    (f : Fillings) (first : String) :
    w.WentThrough s rules t f first
      ((Graph.ofFlow t.bot.flow).path rules.maxSteps (some first)) := by
  have hok : (w.actAll s t (t.forward rules f (some first)).actions).1 = .ok () :=
    actAll_of_accepts h hs (Graph.paired_walk ..)
  refine ⟨Flow.leads_path .., Flow.length_path_le .., fun ms hms hlength => hms.prefix_path hlength,
    hok, ?_, Flow.ends_walk _ _ _ _ none (some first), ?_⟩
  · rw [carriedOut_of_ok h hok, Turn.forward, Graph.walk_actions, List.filterMap_append,
      nodes_flatMap_visit, Outcome.nodes_closing, List.append_nil]
  · obtain ⟨made, hmade, -, hall⟩ := calls_actAll w s t (t.forward rules f (some first)).actions
    refine ⟨made, hmade, ?_⟩
    rw [hall hok, Turn.forward, Graph.calls_walk]

/-- From its first node a walk whose sends are all accepted goes along the path of the flow, to the
longest extent that the number of steps allows, and each node makes at most one call. So no turn
sends more often than it may take steps, but for the one that tells of a refusal. -/
theorem automatic_path (w : World) (s : Stage) (rules : TurnRules) (t : Turn) (f : Fillings)
    (first : String) (h : (w.desk.card? t.card.id).isSome) (hs : s.AcceptsSends) :
    (∃ ns, w.WentThrough s rules t f first ns ∧
      ∀ n ∈ ns, (n.calls f t.recipient).length ≤ 1) ∧
    ∀ (w' : World) (s' : Stage) (introductions : List Introduction), ∃ made,
      (w'.runTurn s' rules introductions t).2.attempts = w'.attempts ++ made ∧
      ((made.filter fun a => a.call.sends).length ≤ rules.maxSteps ∨
        (∃ id, (t.plan rules introductions (s'.clock w'.readings)).outcome = .invalidAnswer id) ∧
          (made.filter fun a => a.call.sends).length ≤ 1) := by
  obtain ⟨c, hc⟩ := Option.isSome_iff_exists.1 h
  refine ⟨⟨_, wentThrough hc hs rules f first, fun n _ => n.length_calls_le f t.recipient⟩, ?_⟩
  intro w' s' introductions
  obtain ⟨made, hmade, hbegins, -⟩ := calls_actAll w'.tick s' t
    (t.plan rules introductions (s'.clock w'.readings)).actions
  have hsends : (made.filter fun a => a.call.sends).length ≤
      (((t.plan rules introductions (s'.clock w'.readings)).actions.filterMap
        Action.call?).filter Call.sends).length := by
    have hmap : (made.map Attempt.call).filter Call.sends =
        (made.filter fun a => a.call.sends).map Attempt.call := List.filter_map ..
    rw [← List.length_map, ← hmap]
    exact (hbegins.filter Call.sends).length_le
  refine ⟨made, by rw [runTurn_attempts]; exact hmade, ?_⟩
  refine (t.length_sends_plan rules introductions (s'.clock w'.readings)).imp ?_ ?_
  · exact Nat.le_trans hsends
  · exact fun ⟨hid, hone⟩ => ⟨hid, Nat.le_trans hsends (Nat.le_of_eq hone)⟩

end World

-- ---------------------------------------------------------------------------
-- Round and round
-- ---------------------------------------------------------------------------

/-- A bot that greets again whenever it has checked. The first edge of the check leads nowhere. -/
def roundBot : Bot where
  id := "round"
  name := "Round"
  isActive := true
  updatedAt := ⟨0, 0⟩
  flow := {
    nodes := [⟨"start", .start, Catalog.empty⟩,
      ⟨"greet", .text, Dictionary.set Catalog.empty "content" (.str "Hola")⟩,
      ⟨"check", .condition, Catalog.empty⟩]
    edges := [⟨"start", "greet", none⟩, ⟨"greet", "check", none⟩, ⟨"check", "nobody", none⟩,
      ⟨"check", "greet", some "true"⟩] }

def roundTurn : Turn := { doorTurn with bot := roundBot }

def fiveSteps : TurnRules := { TurnRules.standard with maxSteps := 5 }

/-- The round is left in its third greeting. -/
theorem automatic_path_round :
    (doorWorld.desk.card? roundTurn.card.id).isSome ∧ openStage.AcceptsSends ∧
      ∃ ns, doorWorld.WentThrough openStage fiveSteps roundTurn (Fillings.ofCard visitor) "greet" ns ∧
        ns.map Node.id = ["greet", "check", "greet", "check", "greet"] := by
  have hcard : (doorWorld.desk.card? roundTurn.card.id).isSome := rfl
  have hstage : openStage.AcceptsSends := fun _ _ _ => rfl
  obtain ⟨ns, hns, -⟩ := (World.automatic_path doorWorld openStage fiveSteps roundTurn
    (Fillings.ofCard visitor) "greet" hcard hstage).1
  refine ⟨hcard, hstage, ns, hns, ?_⟩
  rw [← hns.executes]
  decide +kernel

end Switchboard
