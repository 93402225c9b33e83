import Switchboard.Flow.Graph

/-!
# The graph of a flow by plain scans

The graph is built in one pass over the nodes and one over the edges of a flow. Whatever the flow is
like, its answers are those of a scan of the flow from its beginning (`graph_scans`): of nodes with
one id, of edges that leave one node, and of start nodes the first counts. The list of faults is
empty for the flows that are `Faultless`, and only for these.
-/

namespace Switchboard

namespace Flow

variable {flow : Flow} {id : String}

/-- The node with an id; of several the first one counts. -/
def node? (flow : Flow) (id : String) : Option Node := flow.nodes.find? fun n => n.id == id

def HasNode (flow : Flow) (id : String) : Prop := ∃ n ∈ flow.nodes, n.id = id

structure Faultless (flow : Flow) : Prop where
  oneStart : (flow.nodes.countP fun n => n.kind == .start) = 1
  joined : ∀ e ∈ flow.edges, flow.HasNode e.source ∧ flow.HasNode e.target
  unambiguous : ∀ n ∈ flow.nodes, n.kind.mayBranch = false →
    (flow.edges.countP fun e => e.source == n.id) ≤ 1

theorem node?_ofFlow (flow : Flow) (id : String) :
    (Graph.ofFlow flow).node? id = flow.node? id := Graph.node?_ofFlow flow id

theorem isSome_node? : ((Graph.ofFlow flow).node? id).isSome ↔ flow.HasNode id := by
  rw [Graph.node?_ofFlow, List.find?_isSome]
  simp only [beq_iff_eq]
  rfl

theorem exists_node? (h : flow.HasNode id) : ∃ n, (Graph.ofFlow flow).node? id = some n :=
  Option.isSome_iff_exists.1 (isSome_node?.2 h)

theorem hasNode_of_node? {n : Node} (h : (Graph.ofFlow flow).node? id = some n) :
    flow.HasNode id := isSome_node?.1 (by rw [h]; rfl)

end Flow

namespace Graph

variable {flow : Flow}

theorem firstTarget?_ofFlow (flow : Flow) (id : String) :
    (ofFlow flow).firstTarget? id =
      (flow.edges.find? fun e => e.source == id).map Edge.target := by
  rw [firstTarget?, outgoing_ofFlow, List.head?_filter]

theorem targetOf?_ofFlow (flow : Flow) (id handle : String) :
    (ofFlow flow).targetOf? id handle =
      (flow.edges.find? fun e => e.source == id && e.handle == some handle).map Edge.target := by
  rw [targetOf?, outgoing_ofFlow, List.find?_filter]
  simp only [Bool.decide_and, Bool.decide_eq_true]

theorem opening?_ofFlow (flow : Flow) :
    (ofFlow flow).opening? = (flow.nodes.find? fun n => n.kind == .start).bind fun s =>
      (flow.edges.find? fun e => e.source == s.id).map Edge.target := by
  unfold opening? ofFlow
  rw [List.head?_map, List.head?_filter, Option.bind_map]
  congr 1
  funext s
  exact firstTarget?_ofFlow flow s.id

-- ---------------------------------------------------------------------------
-- Faults
-- ---------------------------------------------------------------------------

theorem startIssues_eq_nil_iff :
    (ofFlow flow).startIssues = [] ↔ (flow.nodes.countP fun n => n.kind == .start) = 1 := by
  have hlength : (ofFlow flow).starts.length = flow.nodes.countP fun n => n.kind == .start := by
    rw [List.countP_eq_length_filter]
    exact List.length_map ..
  unfold startIssues
  rw [hlength]
  generalize (flow.nodes.countP fun n => n.kind == .start) = count
  split <;> simp_all

theorem edgeIssue?_eq_none_iff {e : Edge} :
    (ofFlow flow).edgeIssue? e = none ↔ flow.HasNode e.source ∧ flow.HasNode e.target := by
  unfold edgeIssue?
  rw [← Flow.isSome_node?, ← Flow.isSome_node?, ← Bool.and_eq_true_iff]
  split <;> simp_all

theorem branchIssue?_eq_none_iff {n : Node} :
    (ofFlow flow).branchIssue? n = none ↔
      (n.kind.mayBranch = false → (flow.edges.countP fun e => e.source == n.id) ≤ 1) := by
  unfold branchIssue?
  rw [outgoing_ofFlow, ← List.countP_eq_length_filter]
  cases n.kind.mayBranch <;> simp

end Graph

namespace Flow

theorem issues_eq_nil_iff {flow : Flow} : flow.issues = [] ↔ flow.Faultless := by
  unfold issues
  simp only [List.append_eq_nil_iff, List.filterMap_eq_nil_iff, Graph.startIssues_eq_nil_iff,
    Graph.edgeIssue?_eq_none_iff, Graph.branchIssue?_eq_none_iff]
  constructor
  · rintro ⟨⟨hstart, hjoined⟩, hbranches⟩
    exact ⟨hstart, hjoined, hbranches⟩
  · rintro ⟨hstart, hjoined, hbranches⟩
    exact ⟨⟨hstart, hjoined⟩, hbranches⟩

/-- The graph answers like scans of the flow, and a flow without faults is one that has one start
node, whose edges join its nodes, and of which no node that may not branch has several edges. -/
theorem graph_scans (flow : Flow) :
    (∀ id, (Graph.ofFlow flow).node? id = flow.nodes.find? fun n => n.id == id) ∧
      (∀ id, (Graph.ofFlow flow).outgoing id = flow.edges.filter fun e => e.source == id) ∧
      (∀ id, (Graph.ofFlow flow).firstTarget? id =
        (flow.edges.find? fun e => e.source == id).map Edge.target) ∧
      (∀ id handle, (Graph.ofFlow flow).targetOf? id handle =
        (flow.edges.find? fun e => e.source == id && e.handle == some handle).map Edge.target) ∧
      (Graph.ofFlow flow).opening? = ((flow.nodes.find? fun n => n.kind == .start).bind fun s =>
        (flow.edges.find? fun e => e.source == s.id).map Edge.target) ∧
      (flow.issues = [] ↔ flow.Faultless) :=
  ⟨Graph.node?_ofFlow flow, Graph.outgoing_ofFlow flow, Graph.firstTarget?_ofFlow flow,
    Graph.targetOf?_ofFlow flow, Graph.opening?_ofFlow flow, issues_eq_nil_iff⟩

end Flow

end Switchboard
