import Switchboard.Proofs.Dialogue.Carrying
import Switchboard.Proofs.Dialogue.Path

/-!
# The shape of a turn

The plan of a turn has one of three shapes (`plan_shape`): an answer is refused, there is nowhere to
go, or the flow is walked. A node that is visited pauses, sends and writes down what it sent; what
comes before a walk does none of that, and only the walk itself moves the conversation.
-/

namespace Switchboard

-- ---------------------------------------------------------------------------
-- Actions of nodes
-- ---------------------------------------------------------------------------

/-- Actions that come before a walk: none of them sends, or writes a position. -/
def Action.quiet : Action → Bool
  | .showRead _ | .pause _ | .learn _ _ | .rename _ => true
  | _ => false

/-- Actions of a node that is visited. -/
def Action.speaks : Action → Bool
  | .pause _ | .send _ | .note _ => true
  | _ => false

theorem Node.speaks_of_mem_typing {n : Node} {text : String} {a : Action}
    (h : a ∈ n.typing text) : a.speaks = true := by
  unfold Node.typing at h
  split at h
  · rw [List.mem_singleton] at h; subst h; rfl
  · cases h

theorem Node.speaks_of_mem_say {recipient text : String} {a : Action}
    (h : a ∈ Node.say recipient text) : a.speaks = true := by
  simp only [Node.say, List.mem_cons, List.not_mem_nil, or_false] at h
  rcases h with rfl | rfl <;> rfl

theorem Node.speaks_of_mem_sayUnlessBlank {recipient text : String} {a : Action}
    (h : a ∈ Node.sayUnlessBlank recipient text) : a.speaks = true := by
  unfold Node.sayUnlessBlank at h
  split at h
  · cases h
  · exact Node.speaks_of_mem_say h

/-- A node pauses, sends and writes down what was sent. -/
theorem Node.speaks_of_mem_actions {n : Node} {f : Fillings} {recipient : String} {a : Action}
    (h : a ∈ n.actions f recipient) : a.speaks = true := by
  unfold Node.actions at h
  dsimp only at h
  split at h
  · rcases List.mem_append.1 h with h | h
    · exact n.speaks_of_mem_typing h
    · exact Node.speaks_of_mem_sayUnlessBlank h
  · rcases List.mem_append.1 h with h | h
    · exact n.speaks_of_mem_typing h
    · unfold Node.mediaActions at h
      split at h
      · cases h
      · simp only [List.mem_cons, List.not_mem_nil, or_false] at h
        rcases h with rfl | rfl <;> rfl
  · rcases List.mem_append.1 h with h | h
    · exact n.speaks_of_mem_typing h
    · split at h
      · exact Node.speaks_of_mem_sayUnlessBlank h
      · simp only [List.mem_cons, List.not_mem_nil, or_false] at h
        rcases h with rfl | rfl <;> rfl
  · rcases List.mem_append.1 h with h | h
    · exact n.speaks_of_mem_typing h
    · split at h
      · exact Node.speaks_of_mem_sayUnlessBlank h
      · simp only [List.mem_cons, List.not_mem_nil, or_false] at h
        rcases h with rfl | rfl <;> rfl
  · unfold Node.locationActions at h
    split at h
    · cases h
    · simp only [List.mem_cons, List.not_mem_nil, or_false] at h
      rcases h with rfl | rfl <;> rfl
  · rw [List.mem_singleton] at h; subst h; rfl
  · cases h

theorem Action.moves_of_speaks {a : Action} (h : a.speaks = true) : a.moves = false := by
  cases a <;> first | rfl | cases h

theorem Action.moves_of_quiet {a : Action} (h : a.quiet = true) : a.moves = false := by
  cases a <;> first | rfl | cases h

theorem Action.node?_of_moves {a : Action} (h : a.moves = false) : a.node? = none := by
  cases a <;> first | rfl | cases h

theorem Action.send_notMem_of_quiet {lead : List Action} (h : ∀ a ∈ lead, a.quiet = true)
    (call : Call) : .send call ∉ lead := fun hc => nomatch h _ hc

theorem Outcome.send_notMem_closing (o : Outcome) (call : Call) : .send call ∉ o.closing := by
  cases o <;> simp [closing]

theorem Outcome.nodes_closing (o : Outcome) : o.closing.filterMap Action.node? = [] := by
  cases o <;> rfl

/-- Actions that write no position: no node is executed by them. -/
theorem nodes_eq_nil {as : List Action} (h : ∀ a ∈ as, a.moves = false) :
    as.filterMap Action.node? = [] :=
  List.filterMap_eq_nil_iff.2 fun a ha => Action.node?_of_moves (h a ha)

theorem moves_eq_nil {as : List Action} (h : ∀ a ∈ as, a.moves = false) :
    as.filter Action.moves = [] :=
  List.filter_eq_nil_iff.2 fun a ha => by simp [h a ha]

theorem Node.moves_of_mem_actions {n : Node} {f : Fillings} {recipient : String} :
    ∀ a ∈ n.actions f recipient, a.moves = false :=
  fun _ h => Action.moves_of_speaks (n.speaks_of_mem_actions h)

/-- A visit executes its node, also if it is broken off after the node was written down. -/
theorem nodes_visit {id : String} {kind : NodeKind} {as : List Action}
    (h : ∀ a ∈ as, a.moves = false) :
    (Action.standAt id :: .countStep kind :: as).filterMap Action.node? = [id] := by
  simp only [List.filterMap_cons, Action.node?, nodes_eq_nil h]

theorem moves_visit {id : String} {kind : NodeKind} {as : List Action}
    (h : ∀ a ∈ as, a.moves = false) :
    (Action.standAt id :: .countStep kind :: as).filter Action.moves = [.standAt id] := by
  rw [List.filter_cons_of_pos rfl, List.filter_cons_of_neg Bool.false_ne_true, moves_eq_nil h]

section
variable {f : Fillings} {recipient : String}

theorem nodes_flatMap_visit (ns : List Node) :
    (ns.flatMap fun n => n.visit f recipient).filterMap Action.node? = ns.map Node.id := by
  induction ns with
  | nil => rfl
  | cons n ns ih =>
    rw [List.flatMap_cons, List.filterMap_append, ih, Node.visit,
      nodes_visit n.moves_of_mem_actions]
    rfl

theorem moves_flatMap_visit (ns : List Node) :
    (ns.flatMap fun n => n.visit f recipient).filter Action.moves =
      ns.map fun n => .standAt n.id := by
  induction ns with
  | nil => rfl
  | cons n ns ih =>
    rw [List.flatMap_cons, List.filter_append, ih, Node.visit, moves_visit n.moves_of_mem_actions]
    rfl

variable {lead : List Action} {ns : List Node}

/-- Only the visits of a walk execute nodes, and nothing that comes before them. -/
theorem nodes_lead_visits (h : ∀ a ∈ lead, a.moves = false) :
    (lead ++ ns.flatMap fun n => n.visit f recipient).filterMap Action.node? = ns.map Node.id := by
  rw [List.filterMap_append, nodes_eq_nil h, nodes_flatMap_visit, List.nil_append]

theorem moves_lead_visits (h : ∀ a ∈ lead, a.moves = false) :
    (lead ++ ns.flatMap fun n => n.visit f recipient).filter Action.moves =
      (ns.map Node.id).map Action.standAt := by
  rw [List.filter_append, moves_eq_nil h, moves_flatMap_visit, List.nil_append, List.map_map]
  rfl

end

-- ---------------------------------------------------------------------------
-- Shapes of plans
-- ---------------------------------------------------------------------------

/-- What is said about an answer that a node does not accept. -/
def Node.refusal (n : Node) : String := (n.textField? "errorMessage").getD defaultRefusal

/-- The shapes that the plan of a turn can have, for each number of steps that it may take. -/
inductive Turn.Shape (t : Turn) (rules : TurnRules) (now : Time.Instant) : (Nat → Plan) → Prop
  /-- The answer to a question is refused. -/
  | refusal {n : Node} (resumes : t.resumesAt? rules now = some n.id)
      (node : (Graph.ofFlow t.bot.flow).node? n.id = some n) (question : n.kind = .capture) :
      Shape t rules now fun _ =>
        ⟨t.greeting rules ++ Node.say t.recipient n.refusal, .invalidAnswer n.id⟩
  /-- There is nowhere to go. -/
  | nowhere {lead : List Action} (quiet : ∀ a ∈ lead, a.quiet = true) :
      Shape t rules now fun _ => ⟨lead, .idle⟩
  /-- The flow is walked. -/
  | walk {lead : List Action} (quiet : ∀ a ∈ lead, a.quiet = true) (f : Fillings)
      (first : Option String) :
      Shape t rules now fun steps =>
        ((Graph.ofFlow t.bot.flow).walk f t.recipient steps none first).after lead

namespace Turn

variable {t : Turn} {rules : TurnRules} {now : Time.Instant}

theorem quiet_of_mem_greeting {a : Action} (h : a ∈ t.greeting rules) : a.quiet = true := by
  unfold greeting at h
  rcases List.mem_append.1 h with h | h
  · obtain ⟨id, _, rfl⟩ := Option.map_eq_some_iff.1 (Option.mem_toList.1 h)
    rfl
  · rw [List.mem_singleton] at h; subst h; rfl

theorem quiet_of_mem_lesson {l : Lesson} {a : Action} (h : a ∈ l.actions) : a.quiet = true := by
  unfold Lesson.actions at h
  rcases List.mem_cons.1 h with rfl | h
  · rfl
  · split at h
    · rw [List.mem_singleton] at h; subst h; rfl
    · cases h

/-- The plan of a turn that may take a number of steps. -/
def planWithin (t : Turn) (rules : TurnRules) (introductions : List Introduction)
    (now : Time.Instant) (steps : Nat) : Plan :=
  t.plan { rules with maxSteps := steps } introductions now

theorem plan_shape (t : Turn) (rules : TurnRules) (introductions : List Introduction)
    (now : Time.Instant) : t.Shape rules now (t.planWithin rules introductions now) := by
  have hgreeting : ∀ a ∈ t.greeting rules, a.quiet = true := fun _ ha => quiet_of_mem_greeting ha
  -- neither where the turn goes on nor its greeting depends on the number of steps
  have hresumes : ∀ steps, t.resumesAt? { rules with maxSteps := steps } now =
      t.resumesAt? rules now := fun _ => rfl
  have hgreets : ∀ steps, t.greeting { rules with maxSteps := steps } = t.greeting rules :=
    fun _ => rfl
  unfold planWithin plan
  simp only [hresumes, hgreets]
  cases hid : t.resumesAt? rules now with
  | some id =>
    simp only [replyAt]
    cases hn : (Graph.ofFlow t.bot.flow).node? id with
    | none => simpa only [Plan.after, List.append_nil] using Shape.nowhere hgreeting
    | some n =>
      obtain rfl := Graph.id_of_node? hn
      by_cases hk : n.kind = .capture
      · simp only [hk, if_true]
        cases n.lesson? introductions t.text with
        | none => exact .refusal hid hn hk
        | some l =>
          have hquiet : ∀ a ∈ t.greeting rules ++ l.actions, a.quiet = true := fun a ha =>
            (List.mem_append.1 ha).elim (hgreeting a) quiet_of_mem_lesson
          simpa only [forward, Plan.after, List.append_assoc] using Shape.walk hquiet _ _
      · simp only [hk, if_false]
        exact .walk hgreeting _ _
  | none =>
    have hnone : ∀ a ∈ ([] : List Action), a.quiet = true := fun _ ha => nomatch ha
    cases (Graph.ofFlow t.bot.flow).opening? with
    | some first => exact .walk hnone _ _
    | none => exact .nowhere hnone

end Turn

end Switchboard
