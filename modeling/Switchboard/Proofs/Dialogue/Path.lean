import Switchboard.Dialogue.Plan

/-!
# The path of a walk

A walk visits nodes, and what it plans is what it does at each of them (`walk_actions`). How a walk
ends is told by the last node of its path: one that waits, one behind which the limit came, or none.
-/

namespace Switchboard

-- ---------------------------------------------------------------------------
-- Nodes that wait
-- ---------------------------------------------------------------------------

/-- A node that a reply is awaited at: a question, or options of which at least one can be used. -/
inductive Node.Asks (n : Node) : Prop
  | question (h : n.kind = .capture)
  | buttons (h : n.kind = .quickReply) (some : n.buttons ≠ [])
  | rows (h : n.kind = .list) (some : Section.allRows n.sections ≠ [])

theorem Section.rows_ne_nil_of_ofJson? {place : Nat} {v : Json} {x : Section}
    (h : Section.ofJson? place v = some x) : x.rows ≠ [] := by
  unfold Section.ofJson? at h
  split at h
  · cases h
  · cases h; exact List.cons_ne_nil _ _

theorem Node.rows_ne_nil {n : Node} {x : Section} (h : x ∈ n.sections) : x.rows ≠ [] := by
  unfold Node.sections at h
  split at h
  · unfold Node.usable at h
    obtain ⟨⟨v, place⟩, _, hx⟩ := List.mem_filterMap.1 h
    exact Section.rows_ne_nil_of_ofJson? hx
  · split at h
    · split at h
      · cases h
      · rw [List.mem_singleton] at h
        exact h ▸ List.cons_ne_nil _ _
    · cases h

theorem Node.allRows_eq_nil_iff {n : Node} : Section.allRows n.sections = [] ↔ n.sections = [] := by
  refine ⟨fun h => ?_, fun h => by rw [h]; rfl⟩
  refine List.eq_nil_iff_forall_not_mem.2 fun x hx => ?_
  exact n.rows_ne_nil hx (List.flatMap_eq_nil_iff.1 h x hx)

theorem Node.asks_of_waits {n : Node} (h : n.waits = true) : n.Asks := by
  unfold Node.waits at h
  split at h
  next hk => exact .question hk
  next hk => exact .buttons hk (by simpa using h)
  next hk => exact .rows hk (by simpa [Node.allRows_eq_nil_iff] using h)
  next => cases h

-- ---------------------------------------------------------------------------
-- Paths
-- ---------------------------------------------------------------------------

/-- What is done at a node: the conversation stands there, and the node acts. -/
def Node.visit (n : Node) (f : Fillings) (recipient : String) : List Action :=
  .standAt n.id :: .countStep n.kind :: n.actions f recipient

/-- What is done when the flow comes to its end. -/
def Outcome.closing : Outcome → List Action
  | .completed => [.finish]
  | _ => []

namespace Graph

/-- The nodes that a walk of at most `steps` nodes visits, in their order. -/
def path (g : Graph) : Nat → Option String → List Node
  | _, none => []
  | 0, some _ => []
  | steps + 1, some id =>
    match g.node? id with
    | none => []
    | some n => if n.waits then [n] else n :: g.path steps (g.next? n)

variable {g : Graph} {f : Fillings} {recipient : String}

@[simp] theorem path_none (g : Graph) (steps : Nat) : g.path steps none = [] := by
  cases steps <;> rfl

@[simp] theorem path_zero (g : Graph) (next : Option String) : g.path 0 next = [] := by
  cases next <;> rfl

theorem path_of_missing {id : String} (steps : Nat) (h : g.node? id = none) :
    g.path steps (some id) = [] := by
  cases steps <;> simp [path, h]

theorem path_of_waits {id : String} {n : Node} (steps : Nat) (h : g.node? id = some n)
    (hw : n.waits = true) : g.path (steps + 1) (some id) = [n] := by
  simp [path, h, hw]

theorem path_of_node? {id : String} {n : Node} (steps : Nat) (h : g.node? id = some n)
    (hw : n.waits = false) :
    g.path (steps + 1) (some id) = n :: g.path steps (g.next? n) := by
  simp [path, h, hw]

/-- The first node of a path is the one that it starts from. -/
theorem head?_path (g : Graph) (steps : Nat) (next : Option String) :
    (g.path (steps + 1) next).head? = next.bind g.node? := by
  cases next with
  | none => rfl
  | some id =>
    cases h : g.node? id with
    | none => rw [path_of_missing _ h]; exact h.symm
    | some n =>
      cases hw : n.waits with
      | true => rw [path_of_waits _ h hw]; exact h.symm
      | false => rw [path_of_node? _ h hw]; exact h.symm

theorem walk_none (steps : Nat) (last : Option String) :
    g.walk f recipient steps last none = ⟨[.finish], .completed⟩ := by
  cases steps <;> rfl

theorem walk_zero (last : Option String) (id : String) :
    g.walk f recipient 0 last (some id) = ⟨[], .stepLimit (last.getD id)⟩ := rfl

theorem walk_of_missing {id : String} (steps : Nat) (last : Option String)
    (h : g.node? id = none) : g.walk f recipient (steps + 1) last (some id) = ⟨[], .idle⟩ := by
  simp [walk, h]

theorem walk_of_waits {id : String} {n : Node} (steps : Nat) (last : Option String)
    (h : g.node? id = some n) (hw : n.waits = true) :
    g.walk f recipient (steps + 1) last (some id) = ⟨n.visit f recipient, .suspended n.id⟩ := by
  simp [walk, h, hw, Node.visit]

theorem walk_of_node? {id : String} {n : Node} (steps : Nat) (last : Option String)
    (h : g.node? id = some n) (hw : n.waits = false) :
    g.walk f recipient (steps + 1) last (some id) =
      (g.walk f recipient steps (some n.id) (g.next? n)).after (n.visit f recipient) := by
  simp [walk, h, hw, Node.visit]

/-- A walk plans what is done at the nodes of its path, and at the end of the flow. -/
theorem walk_actions (g : Graph) (f : Fillings) (recipient : String) (steps : Nat)
    (last next : Option String) :
    (g.walk f recipient steps last next).actions =
      (g.path steps next).flatMap (fun n => n.visit f recipient) ++
        (g.walk f recipient steps last next).outcome.closing := by
  induction steps generalizing last next with
  | zero =>
    cases next with
    | none => rfl
    | some id => rfl
  | succ steps ih =>
    cases next with
    | none => rfl
    | some id =>
      cases h : g.node? id with
      | none => simp [walk_of_missing steps last h, path_of_missing _ h, Outcome.closing]
      | some n =>
        cases hw : n.waits with
        | true => simp [walk_of_waits steps last h hw, path_of_waits _ h hw, Outcome.closing]
        | false =>
          rw [walk_of_node? steps last h hw, path_of_node? _ h hw]
          simp [Plan.after, ih (some n.id) (g.next? n)]

-- ---------------------------------------------------------------------------
-- How a walk ends
-- ---------------------------------------------------------------------------

theorem walk_ne_invalidAnswer (steps : Nat) (last next : Option String) (id : String) :
    (g.walk f recipient steps last next).outcome ≠ .invalidAnswer id := by
  induction steps generalizing last next with
  | zero => cases next <;> simp [walk_none, walk_zero]
  | succ steps ih =>
    cases next with
    | none => simp [walk_none]
    | some k =>
      cases h : g.node? k with
      | none => simp [walk_of_missing steps last h]
      | some n =>
        cases hw : n.waits with
        | true => simp [walk_of_waits steps last h hw]
        | false => rw [walk_of_node? steps last h hw]; exact ih _ _

/-- A walk that waits does so at the last node of its path. -/
theorem path_of_suspended {steps : Nat} {last next : Option String} {id : String}
    (h : (g.walk f recipient steps last next).outcome = .suspended id) :
    ∃ n, (g.path steps next).getLast? = some n ∧ n.waits = true ∧ n.id = id := by
  induction steps generalizing last next with
  | zero => cases next <;> simp [walk_none, walk_zero] at h
  | succ steps ih =>
    cases next with
    | none => simp [walk_none] at h
    | some k =>
      cases hk : g.node? k with
      | none => simp [walk_of_missing steps last hk] at h
      | some n =>
        cases hw : n.waits with
        | true =>
          simp only [walk_of_waits steps last hk hw, Outcome.suspended.injEq] at h
          exact ⟨n, by simp [path_of_waits _ hk hw], hw, h⟩
        | false =>
          rw [walk_of_node? steps last hk hw] at h
          obtain ⟨m, hm, hmw, hid⟩ := ih h
          exact ⟨m, by rw [path_of_node? _ hk hw, List.getLast?_cons, hm]; rfl, hmw, hid⟩

/-- A walk that comes to its limit has visited that many nodes, and was left at the last of them. -/
theorem path_of_stepLimit {steps : Nat} {last next : Option String} {id : String}
    (h : (g.walk f recipient steps last next).outcome = .stepLimit id) :
    (g.path steps next).length = steps ∧
      (((g.path steps next).getLast?.map Node.id).or last).getD (next.getD "") = id := by
  induction steps generalizing last next with
  | zero =>
    cases next with
    | none => simp [walk_none] at h
    | some k => exact ⟨rfl, by simpa [walk_zero] using h⟩
  | succ steps ih =>
    cases next with
    | none => simp [walk_none] at h
    | some k =>
      cases hk : g.node? k with
      | none => simp [walk_of_missing steps last hk] at h
      | some n =>
        cases hw : n.waits with
        | true => simp [walk_of_waits steps last hk hw] at h
        | false =>
          rw [walk_of_node? steps last hk hw] at h
          obtain ⟨hlength, hid⟩ := ih h
          rw [path_of_node? _ hk hw]
          refine ⟨by simp [hlength], ?_⟩
          rw [List.getLast?_cons]
          cases hl : (g.path steps (g.next? n)).getLast? with
          | none => simpa [hl] using hid
          | some m => simpa [hl] using hid

/-- Behind the limit the flow goes on, and a walk of more nodes goes on there. -/
theorem path_add_of_stepLimit {steps : Nat} {last next : Option String} {id : String} {n : Node}
    (h : (g.walk f recipient steps last next).outcome = .stepLimit id)
    (hn : (g.path steps next).getLast? = some n) (more : Nat) :
    n.waits = false ∧ (g.next? n).isSome ∧
      g.path (steps + more) next = g.path steps next ++ g.path more (g.next? n) := by
  induction steps generalizing last next with
  | zero => simp at hn
  | succ steps ih =>
    cases next with
    | none => simp at hn
    | some k =>
      cases hk : g.node? k with
      | none => simp [walk_of_missing steps last hk] at h
      | some m =>
        cases hw : m.waits with
        | true => simp [walk_of_waits steps last hk hw] at h
        | false =>
          rw [walk_of_node? steps last hk hw] at h
          have hadd : steps + 1 + more = steps + more + 1 := by omega
          rw [hadd, path_of_node? _ hk hw, path_of_node? _ hk hw]
          rw [path_of_node? _ hk hw, List.getLast?_cons] at hn
          cases hl : (g.path steps (g.next? m)).getLast? with
          | none =>
            -- the limit came right behind this node
            simp only [hl, Option.getD_none, Option.some.injEq] at hn
            subst hn
            have hnil : g.path steps (g.next? m) = [] := List.getLast?_eq_none_iff.1 hl
            have hzero : steps = 0 := by
              have := (path_of_stepLimit h).1
              rw [hnil] at this
              exact this.symm
            subst hzero
            refine ⟨hw, ?_, by simp⟩
            cases hnext : g.next? m with
            | none => simp [hnext, Plan.after, walk_none] at h
            | some k' => rfl
          | some m' =>
            simp only [hl, Option.getD_some, Option.some.injEq] at hn
            subst hn
            obtain ⟨hwaits, hsome, hpath⟩ := ih h hl
            exact ⟨hwaits, hsome, by rw [hpath]; rfl⟩

/-- A walk that comes to its limit was left at the last node of its path, and leads on from there. -/
theorem last_of_stepLimit {steps : Nat} {first : Option String} {id : String}
    (hsteps : 1 ≤ steps)
    (h : (g.walk f recipient steps none first).outcome = .stepLimit id) :
    ∃ n, (g.path steps first).getLast? = some n ∧ n.id = id ∧ n.waits = false ∧
      (g.next? n).isSome := by
  obtain ⟨hlength, hid⟩ := path_of_stepLimit h
  cases hn : (g.path steps first).getLast? with
  | none =>
    rw [List.getLast?_eq_none_iff.1 hn, List.length_nil] at hlength
    omega
  | some n =>
    obtain ⟨hw, hnext, -⟩ := path_add_of_stepLimit h hn 0
    exact ⟨n, rfl, by simpa [hn] using hid, hw, hnext⟩

-- ---------------------------------------------------------------------------
-- Graphs of flows
-- ---------------------------------------------------------------------------

variable {flow : Flow}

theorem id_of_node? {id : String} {n : Node} (h : (ofFlow flow).node? id = some n) : n.id = id := by
  rw [node?_ofFlow] at h
  simpa using List.find?_some h

/-- The nodes of a path are those of the flow. -/
theorem node?_of_mem_path {steps : Nat} {next : Option String} {n : Node}
    (h : n ∈ (ofFlow flow).path steps next) : (ofFlow flow).node? n.id = some n := by
  induction steps generalizing next with
  | zero => simp at h
  | succ steps ih =>
    cases next with
    | none => simp at h
    | some k =>
      cases hk : (ofFlow flow).node? k with
      | none => simp [path_of_missing _ hk] at h
      | some m =>
        have hm : (ofFlow flow).node? m.id = some m := by rw [id_of_node? hk]; exact hk
        cases hw : m.waits with
        | true =>
          rw [path_of_waits _ hk hw, List.mem_singleton] at h
          exact h ▸ hm
        | false =>
          rw [path_of_node? _ hk hw] at h
          rcases List.mem_cons.1 h with rfl | h
          · exact hm
          · exact ih h

end Graph

end Switchboard
