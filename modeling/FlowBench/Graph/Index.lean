/-
  FlowBench.Graph.Index
  ─────────────────────
  **The graph of a workflow.**

  An index over a workflow: nodes by id, and the edges that leave and enter
  each node, in the order of the workflow.  It is built anew after an edit.
  Cycles, loops and parallel edges are allowed.
-/
import FlowBench.Workflow.Basic

namespace FlowBench

/-- An index over nodes and edges. -/
structure FlowGraph where
  /-- The node ids in workflow order. -/
  ids : List String
  /-- The nodes by id. -/
  byId : Table Node
  edges : List Edge
  /-- The edges into each node. -/
  incoming : Table (List Edge)
  /-- The edges out of each node. -/
  outgoing : Table (List Edge)

namespace FlowGraph

/-- Puts an item at the end of the list under a key. -/
def append (t : Table (List Edge)) (key : String) (e : Edge) : Table (List Edge) :=
  t.insert key ((t.get? key).getD [] ++ [e])

/-- The index of a workflow. -/
def ofWorkflow (w : Workflow) : FlowGraph :=
  let none : Table (List Edge) := w.nodes.foldl (fun t n => t.insert n.id []) Table.empty
  { ids := w.nodes.map Node.id
    byId := w.nodes.foldl (fun t n => t.insert n.id n) Table.empty
    edges := w.edges
    incoming := w.edges.foldl (fun t e => append t e.target e) none
    outgoing := w.edges.foldl (fun t e => append t e.source e) none }

/-- The node with an id. -/
def node? (g : FlowGraph) (id : String) : Option Node := g.byId.get? id

/-- Whether a node exists. -/
def contains (g : FlowGraph) (id : String) : Bool := (g.node? id).isSome

/-- The nodes in workflow order. -/
def nodes (g : FlowGraph) : List Node := g.ids.filterMap g.node?

/-- The edges into a node. -/
def parents (g : FlowGraph) (id : String) : List Edge := (g.incoming.get? id).getD []

/-- The edges out of a node. -/
def children (g : FlowGraph) (id : String) : List Edge := (g.outgoing.get? id).getD []

/-- An edge leads from one node to another. -/
def Step (g : FlowGraph) (a b : String) : Prop := ∃ e ∈ g.edges, e.source = a ∧ e.target = b

/-- One node leads to another along any number of edges. -/
inductive Reaches (g : FlowGraph) : String → String → Prop where
  | refl (a : String) : Reaches g a a
  | tail {a b c : String} : Reaches g a b → g.Step b c → Reaches g a c

end FlowGraph

end FlowBench
