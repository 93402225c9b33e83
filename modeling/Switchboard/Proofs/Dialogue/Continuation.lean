import Switchboard.Proofs.Dialogue.Standing

/-!
# Turns that are continued

A turn that has taken its number of steps leaves the conversation at the last node it visited, and
the next turn takes that node for one at which a reply was awaited. A walk leaves a condition along
its edge for `true`, a reply leaves any node without options along its first edge. So the next turn
goes on where the walk would have gone on, unless these edges of a condition lead apart
(`stepLimit_continued`).
-/

namespace Switchboard

-- ---------------------------------------------------------------------------
-- Two successors of a node
-- ---------------------------------------------------------------------------

namespace Graph

variable {g : Graph} {n : Node}

/-- A condition whose edge for `true` leads elsewhere than its first edge. -/
def Diverts (g : Graph) (n : Node) : Prop :=
  n.kind = .condition ∧ ∃ m, g.targetOf? n.id "true" = some m ∧ g.firstTarget? n.id ≠ some m

/-- A walk and a reply leave a node in the same way unless it diverts. -/
theorem firstTarget?_eq_next?_iff (g : Graph) (n : Node) :
    g.firstTarget? n.id = g.next? n ↔ ¬ g.Diverts n := by
  unfold next? Diverts
  by_cases hk : n.kind = .condition
  · rw [if_pos hk]
    cases ht : g.targetOf? n.id "true" with
    | none => simp
    | some m => simp [hk]
  · simp [hk]

theorem selected?_of_not_waits (h : n.waits = false) (reply : String) :
    n.selected? reply = none := by
  unfold Node.selected?
  split
  next hk =>
    have hnil : n.buttons = [] := by simpa [Node.waits, hk] using h
    rw [hnil]; rfl
  next hk =>
    have hnil : n.sections = [] := by simpa [Node.waits, hk] using h
    rw [hnil]; rfl
  next => rfl

theorem replyTarget?_of_not_waits (h : n.waits = false) (reply : String) :
    g.replyTarget? n n.id reply = g.firstTarget? n.id := by
  unfold replyTarget? firstTarget?
  rw [selected?_of_not_waits h]
  split <;> rename_i he <;> rw [he] <;> rfl

variable {flow : Flow} {f : Fillings} {recipient : String} {steps : Nat} {first : Option String}
  {id m : String}

/-- Behind its limit a walk goes on at the successor of the last node of its path. -/
theorem walk_behind_limit {x : Node}
    (h : ((ofFlow flow).walk f recipient steps none first).outcome = .stepLimit id)
    (hlast : ((ofFlow flow).path steps first).getLast? = some n)
    (hm : (ofFlow flow).next? n = some m) (hx : (ofFlow flow).node? m = some x) (more : Nat) :
    ∃ rest, ((ofFlow flow).walk f recipient (steps + (more + 1)) none first).actions =
      ((ofFlow flow).walk f recipient steps none first).actions ++ .standAt m :: rest := by
  obtain rfl := id_of_node? hx
  obtain ⟨-, -, hpath⟩ := path_add_of_stepLimit h hlast (more + 1)
  obtain ⟨path, hbehind⟩ : ∃ path, (ofFlow flow).path (more + 1) (some x.id) = x :: path := by
    refine List.head?_eq_some_iff.1 ?_
    rw [head?_path, Option.bind_some, hx]
  have hcut := walk_actions (ofFlow flow) f recipient steps none first
  simp only [h, Outcome.closing, List.append_nil] at hcut
  rw [walk_actions, hpath, hm, hbehind, List.flatMap_append, List.flatMap_cons, ← hcut, Node.visit]
  simp only [List.append_assoc, List.cons_append]
  exact ⟨_, rfl⟩

end Graph

-- ---------------------------------------------------------------------------
-- The first node of a turn
-- ---------------------------------------------------------------------------

theorem Turn.plan_of_resumesAt? {t : Turn} {rules : TurnRules} {introductions : List Introduction}
    {now : Time.Instant} {n : Node} (hid : t.resumesAt? rules now = some n.id)
    (hn : (Graph.ofFlow t.bot.flow).node? n.id = some n) (hw : n.waits = false) :
    t.plan rules introductions now =
      ((Graph.ofFlow t.bot.flow).walk (Fillings.ofCard t.card) t.recipient rules.maxSteps none
        ((Graph.ofFlow t.bot.flow).firstTarget? n.id)).after (t.greeting rules) := by
  have hk : n.kind ≠ .capture := by
    intro hk
    simp [Node.waits, hk] at hw
  simp only [plan, hid, replyAt, hn, if_neg hk, Graph.replyTarget?_of_not_waits hw, forward]

namespace World

variable {w : World} {s : Stage} {rules : TurnRules} {introductions : List Introduction} {t : Turn}
  {c : Card}

/-- The node behind actions that succeed is executed, whatever comes of the actions behind it. -/
theorem nodes_carriedOut_append (h : w.desk.card? t.card.id = some c) {as : List Action}
    (hok : (w.actAll s t as).1 = .ok ()) (id : String) (bs : List Action) :
    (w.carriedOut s t (as ++ .standAt id :: bs)).filterMap Action.node? =
      as.filterMap Action.node? ++
        id :: ((((w.actAll s t as).2.act s t (.standAt id)).2.carriedOut s t bs).filterMap
          Action.node?) := by
  obtain ⟨c', hc', -⟩ := follows_actAll h s as
  have hstand : ((w.actAll s t as).2.act s t (.standAt id)).1 = .ok () := by
    refine (act_cases hc').resolve_right ?_
    rintro ⟨_, _, hsend, _⟩
    cases hsend
  rw [carriedOut_append h hok, carriedOut_cons_ok hstand, List.filterMap_append]
  rfl

theorem nodes_carriedOut_eq_nil (h : w.desk.card? t.card.id = some c) {as : List Action}
    (hsend : ∀ call, .send call ∉ as) (has : as.filterMap Action.node? = []) :
    (w.carriedOut s t as).filterMap Action.node? = [] := by
  rw [carriedOut_of_ok h (actAll_ok h s hsend), has]

/-- The first node that is executed when the conversation goes on from one without options. -/
theorem head?_visits {n : Node} (h : w.desk.card? t.card.id = some c) (hsteps : 1 ≤ rules.maxSteps)
    (hid : t.resumesAt? rules (s.clock w.readings) = some n.id)
    (hn : (Graph.ofFlow t.bot.flow).node? n.id = some n) (hw : n.waits = false) :
    (w.visits s rules introductions t).head? =
      (((Graph.ofFlow t.bot.flow).firstTarget? n.id).bind
        (Graph.ofFlow t.bot.flow).node?).map Node.id := by
  have hquiet : ∀ a ∈ t.greeting rules, a.quiet = true := fun _ ha => Turn.quiet_of_mem_greeting ha
  have hnodes := nodes_eq_nil fun a ha => Action.moves_of_quiet (hquiet a ha)
  obtain ⟨steps, hsteps⟩ : ∃ steps, rules.maxSteps = steps + 1 := ⟨rules.maxSteps - 1, by omega⟩
  replace h : w.tick.desk.card? t.card.id = some c := h
  unfold visits
  rw [Turn.plan_of_resumesAt? hid hn hw, hsteps, ← Graph.head?_path _ steps]
  simp only [Plan.after, Graph.walk_actions]
  cases hpath : (Graph.ofFlow t.bot.flow).path (steps + 1)
    ((Graph.ofFlow t.bot.flow).firstTarget? n.id) with
  -- the flow ends here or leads to no node, and nothing is left but to finish
  | nil =>
    have hsend : ∀ call, .send call ∉ t.greeting rules ++ ((Graph.ofFlow t.bot.flow).walk
        (Fillings.ofCard t.card) t.recipient (steps + 1) none
        ((Graph.ofFlow t.bot.flow).firstTarget? n.id)).outcome.closing := fun call hc =>
      (List.mem_append.1 hc).elim (Action.send_notMem_of_quiet hquiet call)
        (Outcome.send_notMem_closing _ call)
    rw [List.flatMap_nil, List.nil_append, nodes_carriedOut_eq_nil h hsend]
    · rfl
    · rw [List.filterMap_append, hnodes, Outcome.nodes_closing]
      rfl
  | cons m path =>
    rw [List.flatMap_cons]
    simp only [Node.visit, List.cons_append]
    rw [nodes_carriedOut_append h (actAll_ok h s (Action.send_notMem_of_quiet hquiet)), hnodes]
    rfl

end World

-- ---------------------------------------------------------------------------
-- Turn after turn
-- ---------------------------------------------------------------------------

namespace Turn

variable {t : Turn} {rules : TurnRules} {introductions : List Introduction} {now : Time.Instant}

/-- A turn that comes to its limit walks, however many steps it may take. -/
theorem walks_of_stepLimit {id : String}
    (h : (t.plan rules introductions now).outcome = .stepLimit id) :
    ∃ (lead : List Action) (f : Fillings) (first : Option String),
      (∀ a ∈ lead, a.quiet = true) ∧ ∀ steps, t.planWithin rules introductions now steps =
        ((Graph.ofFlow t.bot.flow).walk f t.recipient steps none first).after lead := by
  have hshape := t.plan_shape rules introductions now
  have hplan : t.plan rules introductions now =
    t.planWithin rules introductions now rules.maxSteps := rfl
  rw [hplan] at h
  generalize t.planWithin rules introductions now = plan at h hshape
  cases hshape with
  | refusal => cases h
  | nowhere => cases h
  | @walk lead quiet f first => exact ⟨lead, f, first, quiet, fun _ => rfl⟩

/-- Behind the limit of a turn stands the successor of the last node it visits: with more steps the
turn does the same, and goes on there. -/
theorem plan_behind_limit {id : String} (hsteps : 1 ≤ rules.maxSteps)
    (h : (t.plan rules introductions now).outcome = .stepLimit id) :
    ∃ n m, (Graph.ofFlow t.bot.flow).node? id = some n ∧ n.waits = false ∧
      (Graph.ofFlow t.bot.flow).next? n = some m ∧
      (((Graph.ofFlow t.bot.flow).node? m).isSome → ∀ more, ∃ rest,
        (t.planWithin rules introductions now (rules.maxSteps + (more + 1))).actions =
          (t.plan rules introductions now).actions ++ .standAt m :: rest) := by
  obtain ⟨lead, f, first, -, hplan⟩ := walks_of_stepLimit h
  have hcut : t.plan rules introductions now =
    ((Graph.ofFlow t.bot.flow).walk f t.recipient rules.maxSteps none first).after lead :=
    hplan rules.maxSteps
  rw [hcut] at h ⊢
  obtain ⟨n, hlast, rfl, hw, hnext⟩ := Graph.last_of_stepLimit hsteps h
  obtain ⟨m, hm⟩ := Option.isSome_iff_exists.1 hnext
  refine ⟨n, m, Graph.node?_of_mem_path (List.mem_of_getLast? hlast), hw, hm, fun hex more => ?_⟩
  obtain ⟨x, hx⟩ := Option.isSome_iff_exists.1 hex
  obtain ⟨rest, hrest⟩ := Graph.walk_behind_limit h hlast hm hx more
  rw [hplan, Plan.after, Plan.after, hrest]
  exact ⟨rest, (List.append_assoc ..).symm⟩

theorem resumesAt?_of_position {id : String} {since : Time.Instant} (hrestart : t.restart = false)
    (hposition : t.card.position = some (.activeAt id since))
    (hlive : (Position.activeAt id since).isStale now rules.staleness = false) :
    t.resumesAt? rules now = some id := by
  have hfilter : t.card.livePosition? now rules.staleness = some (.activeAt id since) := by
    rw [Card.livePosition?, hposition, Option.filter_some, hlive]
    rfl
  rw [resumesAt?, hrestart, hfilter]
  rfl

end Turn

namespace World

/-- A turn that takes up the conversation where an earlier turn left it: of the same bot, on the
stored card, neither begun anew nor too late. -/
structure TakesUp (left : World) (t : Turn) (w : World) (s : Stage) (rules : TurnRules) (t' : Turn) :
    Prop where
  bot : t'.bot = t.bot
  card : t'.card.id = t.card.id
  stored : w.desk.card? t'.card.id = some t'.card
  position : (left.desk.card? t.card.id).bind Card.position = t'.card.position
  restart : t'.restart = false
  live : ∀ p, t'.card.position = some p → p.isStale (s.clock w.readings) rules.staleness = false

variable {w : World} {s : Stage} {rules : TurnRules} {introductions : List Introduction} {t : Turn}

/-- A turn that comes to its limit leaves the conversation at the node it names. -/
theorem standsAt_of_stepLimit {id : String} (h : w.desk.card? t.card.id = some t.card)
    (hsteps : 1 ≤ rules.maxSteps)
    (hlimit : (w.runTurn s rules introductions t).1 = .ok (.stepLimit id)) :
    StandsAt id (((w.runTurn s rules introductions t).2.desk.card? t.card.id).bind
      Card.position) := by
  obtain ⟨c, hc, hagrees⟩ := agrees_of_ok h (runTurn_ok hlimit).1
  unfold trace at hagrees
  rw [hlimit] at hagrees
  have hzero : rules.maxSteps ≠ 0 := by omega
  simp only [Turn.Agrees, if_neg hzero] at hagrees
  rw [hc]
  exact hagrees.2

theorem TakesUp.resumesAt? {left : World} {t' : Turn} {id : String}
    (h : TakesUp left t w s rules t')
    (hstands : StandsAt id ((left.desk.card? t.card.id).bind Card.position)) :
    t'.resumesAt? rules (s.clock w.readings) = some id := by
  rw [h.position] at hstands
  obtain ⟨since, hposition⟩ := hstands
  exact Turn.resumesAt?_of_position h.restart hposition (h.live _ hposition)

/-- Behind the limit of a turn comes the successor of the node at which it was left. A turn of more
steps executes it next, and the turn that takes up the conversation executes it first unless the
node at which it was left diverts. -/
theorem stepLimit_continued (w : World) (s : Stage) (rules : TurnRules)
    (introductions : List Introduction) (t : Turn) {id : String}
    (h : w.desk.card? t.card.id = some t.card) (hsteps : 1 ≤ rules.maxSteps)
    (hlimit : (w.runTurn s rules introductions t).1 = .ok (.stepLimit id)) :
    ∃ n m, (Graph.ofFlow t.bot.flow).node? id = some n ∧
      (Graph.ofFlow t.bot.flow).next? n = some m ∧
      (((Graph.ofFlow t.bot.flow).node? m).isSome →
        (∀ more, ∃ rest,
          w.visits s { rules with maxSteps := rules.maxSteps + (more + 1) } introductions t =
            w.visits s rules introductions t ++ m :: rest) ∧
        ∀ w' s' t', TakesUp (w.runTurn s rules introductions t).2 t w' s' rules t' →
          ((w'.visits s' rules introductions t').head? = some m ↔
            ¬ (Graph.ofFlow t.bot.flow).Diverts n)) := by
  obtain ⟨hok, houtcome⟩ := runTurn_ok hlimit
  obtain ⟨n, m, hn, hw, hm, hbehind⟩ := Turn.plan_behind_limit hsteps houtcome
  refine ⟨n, m, hn, hm, fun hex => ⟨fun more => ?_, fun w' s' t' hup => ?_⟩⟩
  · obtain ⟨rest, hrest⟩ := hbehind hex more
    have hcard : w.tick.desk.card? t.card.id = some t.card := h
    have hplan : t.plan { rules with maxSteps := rules.maxSteps + (more + 1) } introductions
      (s.clock w.readings) = t.planWithin rules introductions (s.clock w.readings)
        (rules.maxSteps + (more + 1)) := rfl
    unfold visits
    rw [hplan, hrest, nodes_carriedOut_append hcard hok, carriedOut_of_ok hcard hok]
    exact ⟨_, rfl⟩
  · obtain rfl := Graph.id_of_node? hn
    obtain ⟨x, hx⟩ := Option.isSome_iff_exists.1 hex
    obtain rfl := Graph.id_of_node? hx
    have hid := hup.resumesAt? (standsAt_of_stepLimit h hsteps hlimit)
    -- the two turns walk one graph, which only the bot of the later one is named by
    rw [← hup.bot] at hn hm hx ⊢
    rw [head?_visits hup.stored hsteps hid hn hw, ← Graph.firstTarget?_eq_next?_iff, hm]
    constructor
    · intro hhead
      obtain ⟨y, hy, hyx⟩ := Option.map_eq_some_iff.1 hhead
      obtain ⟨k, hk, hky⟩ := Option.bind_eq_some_iff.1 hy
      rw [hk, ← Graph.id_of_node? hky, hyx]
    · intro hfirst
      rw [hfirst, Option.bind_some, hx, Option.map_some]

end World

-- ---------------------------------------------------------------------------
-- One step at a time
-- ---------------------------------------------------------------------------

/-- A stage on which every send is accepted. -/
def openStage : Stage := ⟨fun _ _ => .ok ⟨none, none⟩, .webChat, fun _ => ⟨0, 0⟩⟩

def oneStep : TurnRules := { TurnRules.standard with maxSteps := 1 }

def World.reply (left : World) (t : Turn) (text : String) : Turn :=
  { t with card := (left.desk.card? t.card.id).getD t.card, text := text, restart := false }

theorem World.takesUp_reply {left : World} {t : Turn} {text : String} (node : String)
    (hcard : (left.desk.card? t.card.id).isSome)
    (hposition : (left.desk.card? t.card.id).bind Card.position =
      some (.activeAt node ⟨0, 0⟩)) :
    TakesUp left t left openStage oneStep (left.reply t text) := by
  obtain ⟨c, hc⟩ := Option.isSome_iff_exists.1 hcard
  have hid : c.id = t.card.id := Desk.id_of_card? hc
  have hreply : (left.reply t text).card = c := by rw [reply, hc]; rfl
  refine ⟨rfl, by rw [hreply, hid], by rw [hreply, hid, hc], by rw [hreply, hc]; rfl, rfl, ?_⟩
  intro p hp
  rw [hreply] at hp
  rw [hc, Option.bind_some, hp] at hposition
  cases hposition
  rfl

def leftAtDoor : World := (doorWorld.runTurn openStage oneStep [] doorTurn).2

theorem ok_of_toOption {ε α : Type} {r : Except ε α} {x : α} (h : r.toOption = some x) :
    r = .ok x := by
  cases r with
  | error e => cases h
  | ok y => cases h; rfl

theorem runTurn_door :
    (doorWorld.runTurn openStage oneStep [] doorTurn).1 = .ok (.stepLimit "welcome") :=
  ok_of_toOption (by decide +kernel)

/-- Behind the welcome comes the question. -/
theorem stepLimit_continued_at_door :
    doorWorld.desk.card? doorTurn.card.id = some doorTurn.card ∧
      (leftAtDoor.visits openStage oneStep [] (leftAtDoor.reply doorTurn "Ana")).head? =
        some "ask" := by
  have hcard : doorWorld.desk.card? doorTurn.card.id = some doorTurn.card := rfl
  refine ⟨hcard, ?_⟩
  obtain ⟨n, m, hn, hm, hgo⟩ := World.stepLimit_continued doorWorld openStage oneStep [] doorTurn
    hcard (Nat.le_refl 1) runTurn_door
  have hkind : ((Graph.ofFlow doorBot.flow).node? "welcome").map Node.kind = some .text := by
    decide +kernel
  have hnext : ((Graph.ofFlow doorBot.flow).node? "welcome").bind (Graph.ofFlow doorBot.flow).next? =
    some "ask" := by decide +kernel
  have hask : ((Graph.ofFlow doorBot.flow).node? "ask").isSome := by decide +kernel
  have hup : World.TakesUp leftAtDoor doorTurn leftAtDoor openStage oneStep
      (leftAtDoor.reply doorTurn "Ana") :=
    World.takesUp_reply "welcome" (by decide +kernel) (by decide +kernel)
  simp only [doorTurn] at hn hm hgo
  rw [hn] at hkind hnext
  obtain rfl : m = "ask" := Option.some.inj (hm.symm.trans hnext)
  refine ((hgo hask).2 _ _ _ hup).2 ?_
  rintro ⟨hcondition, _⟩
  cases hcondition.symm.trans (Option.some.inj hkind)

/-- A bot that checks a condition. The edge for `true` is not the first one of the check. -/
def forkBot : Bot where
  id := "fork"
  name := "Fork"
  isActive := true
  updatedAt := ⟨0, 0⟩
  flow := {
    nodes := [⟨"start", .start, Catalog.empty⟩, ⟨"check", .condition, Catalog.empty⟩,
      ⟨"left", .text, Catalog.empty⟩, ⟨"right", .text, Catalog.empty⟩]
    edges := [⟨"start", "check", none⟩, ⟨"check", "left", none⟩,
      ⟨"check", "right", some "true"⟩] }

def forkTurn : Turn := { doorTurn with bot := forkBot }

def leftAtFork : World := (doorWorld.runTurn openStage oneStep [] forkTurn).2

/-- Left at the check, the conversation goes on to the left, and not to the right, where one turn of
more steps goes. -/
theorem diverted_at_fork :
    doorWorld.desk.card? forkTurn.card.id = some forkTurn.card ∧
      (doorWorld.runTurn openStage oneStep [] forkTurn).1 = .ok (.stepLimit "check") ∧
      doorWorld.visits openStage oneStep [] forkTurn = ["check"] ∧
      doorWorld.visits openStage .standard [] forkTurn = ["check", "right"] ∧
      World.TakesUp leftAtFork forkTurn leftAtFork openStage oneStep
        (leftAtFork.reply forkTurn "Sigue") ∧
      leftAtFork.visits openStage oneStep [] (leftAtFork.reply forkTurn "Sigue") = ["left"] := by
  refine ⟨rfl, ok_of_toOption ?_, ?_, ?_, World.takesUp_reply "check" ?_ ?_, ?_⟩ <;>
    decide +kernel

end Switchboard
