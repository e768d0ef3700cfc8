/-
  FlowBench.Workflow.Reference
  ────────────────────────────
  **References that find nothing.**

  A text sees the nodes that lead to its own.  A reference to any other node
  finds nothing, whatever the outputs are; such references are told from the
  workflow alone.
-/
import FlowBench.Graph.Search
import FlowBench.Template

namespace FlowBench

/-- Why a node cannot be seen. -/
inductive Unseen where
  /-- No node is displayed by the name. -/
  | unknown
  /-- The node is the one that refers to it. -/
  | itself
  /-- The node does not lead to the one that refers to it. -/
  | elsewhere
  deriving DecidableEq, Repr

/-- The text of a reason. -/
def Unseen.text : Unseen → String
  | unknown => "unknown node"
  | itself => "refers to itself"
  | elsewhere => "not upstream"

/-- A reference that finds nothing. -/
structure DeadReference where
  node : String
  field : String
  name : String
  reason : Unseen
  deriving DecidableEq, Repr

namespace Workflow

/-- Why a node cannot see what is displayed by a name, if it cannot. -/
def unseen? (w : Workflow) (g : FlowGraph) (node : String) (name : String) : Option Unseen :=
  match w.nodeByName? name with
  | none => some .unknown
  | some target =>
      if target.id = node then some .itself
      else if g.hasPath target.id node then none
      else some .elsewhere

/-- The references of a node's text that find nothing. -/
def deadIn (w : Workflow) (g : FlowGraph) (node : String) (text : String × String) :
    List DeadReference :=
  (Template.referencedNames text.2).filterMap fun name =>
    (w.unseen? g node name).map fun reason => ⟨node, text.1, name, reason⟩

/-- The references that find nothing, in the order of the nodes and their
texts. -/
def deadReferences (w : Workflow) : List DeadReference :=
  let g := FlowGraph.ofWorkflow w
  w.nodes.flatMap fun n => n.config.texts.flatMap (w.deadIn g n.id)

end Workflow

end FlowBench
