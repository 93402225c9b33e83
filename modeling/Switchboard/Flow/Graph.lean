import Switchboard.Flow

/-!
# Flow graphs

A flow as a graph to walk: its nodes by id, the edges that leave each node in their order, and its
start nodes. Edges to unknown nodes belong to the graph, so following one stops the walk. A flow may
have faults; none of them keeps it from being walked.
-/

namespace Switchboard

structure Graph where
  nodes : Dictionary Node
  edges : Dictionary (List Edge)
  starts : List String

namespace Graph

/-- Adds a node, unless one with its id is there. -/
def addNode (nodes : Dictionary Node) (n : Node) : Dictionary Node :=
  match nodes.value? n.id with
  | some _ => nodes
  | none => nodes.set n.id n

/-- Adds an edge behind those that leave the same node. -/
def addEdge (edges : Dictionary (List Edge)) (e : Edge) : Dictionary (List Edge) :=
  edges.set e.source ((edges.value? e.source).getD [] ++ [e])

def ofFlow (f : Flow) : Graph where
  nodes := f.nodes.foldl addNode Catalog.empty
  edges := f.edges.foldl addEdge Catalog.empty
  starts := (f.nodes.filter fun n => n.kind == .start).map Node.id

def node? (g : Graph) (id : String) : Option Node := g.nodes.value? id

/-- The edges that leave a node, in their order. -/
def outgoing (g : Graph) (id : String) : List Edge := (g.edges.value? id).getD []

/-- Where the first edge leads. -/
def firstTarget? (g : Graph) (id : String) : Option String := (g.outgoing id).head?.map Edge.target

/-- Where the first edge of an option leads. -/
def targetOf? (g : Graph) (id handle : String) : Option String :=
  ((g.outgoing id).find? fun e => e.handle == some handle).map Edge.target

/-- The first node of a conversation: the one that the first start node leads to. -/
def opening? (g : Graph) : Option String := g.starts.head?.bind g.firstTarget?

/-- The first node with an id is the one that counts. -/
theorem node?_ofFlow (f : Flow) (id : String) :
    (ofFlow f).node? id = f.nodes.find? fun n => n.id == id := by
  have step : ∀ (ns : List Node) (d : Dictionary Node),
      (ns.foldl addNode d).value? id = (d.value? id).or (ns.find? fun n => n.id == id) := by
    intro ns
    induction ns with
    | nil => simp
    | cons n ns ih =>
      intro d
      simp only [List.foldl_cons, List.find?_cons]
      rw [ih]
      unfold addNode
      cases hd : d.value? n.id with
      | some m =>
        -- the node that came first keeps its place
        by_cases h : n.id = id
        · subst h; simp [hd]
        · simp [beq_eq_false_iff_ne.2 h]
      | none =>
        by_cases h : n.id = id
        · subst h; simp [hd]
        · simp [beq_eq_false_iff_ne.2 h, Dictionary.value?_set_of_ne d n h]
  show (f.nodes.foldl addNode Catalog.empty).value? id = _
  rw [step]; rfl

/-- The edges that leave a node are those of the flow, in their order. -/
theorem outgoing_ofFlow (f : Flow) (id : String) :
    (ofFlow f).outgoing id = f.edges.filter fun e => e.source == id := by
  have step : ∀ (es : List Edge) (d : Dictionary (List Edge)),
      ((es.foldl addEdge d).value? id).getD [] =
        (d.value? id).getD [] ++ es.filter fun e => e.source == id := by
    intro es
    induction es with
    | nil => simp
    | cons e es ih =>
      intro d
      simp only [List.foldl_cons, List.filter_cons]
      rw [ih]
      by_cases h : e.source = id
      · subst h; simp [addEdge]
      · simp [addEdge, h, Dictionary.value?_set_of_ne d _ h]
  show ((f.edges.foldl addEdge Catalog.empty).value? id).getD [] = _
  rw [step]; rfl

end Graph

/-- What may be wrong with a flow. -/
inductive FlowIssue where
  | noStart
  | manyStarts (count : Nat)
  | danglingEdge (source target : String)
  | ambiguousBranch (node : String) (kind : NodeKind) (edges : Nat)
  deriving DecidableEq, Repr

namespace FlowIssue

def message : FlowIssue → String
  | noStart => "flow has no startNode"
  | manyStarts count => "flow has " ++ toString count ++ " startNodes; the first one is used"
  | danglingEdge source target =>
    "edge " ++ source ++ " -> " ++ target ++ " references an unknown node"
  | ambiguousBranch node kind edges =>
    kind.name ++ " node " ++ node ++ " has " ++ toString edges
      ++ " outgoing edges but cannot branch"

end FlowIssue

namespace Graph

def startIssues (g : Graph) : List FlowIssue :=
  match g.starts.length with
  | 0 => [.noStart]
  | 1 => []
  | n => [.manyStarts n]

def edgeIssue? (g : Graph) (e : Edge) : Option FlowIssue :=
  if (g.node? e.source).isSome && (g.node? e.target).isSome then none
  else some (.danglingEdge e.source e.target)

def branchIssue? (g : Graph) (n : Node) : Option FlowIssue :=
  let count := (g.outgoing n.id).length
  if 1 < count && !n.kind.mayBranch then some (.ambiguousBranch n.id n.kind count) else none

end Graph

/-- All faults of a flow: its start nodes, then its edges and its nodes in their order. -/
def Flow.issues (f : Flow) : List FlowIssue :=
  let g := Graph.ofFlow f
  g.startIssues ++ f.edges.filterMap g.edgeIssue? ++ f.nodes.filterMap g.branchIssue?

end Switchboard
