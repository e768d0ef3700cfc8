/-
  FlowBench.Graph.Collect
  ───────────────────────
  **Collecting what a node sees.**

  A search backwards from the node.  Each ancestor with an output is bound
  to its display name; one that was met by an edge into the node itself is a
  direct parent and also takes its place in the ordered list.  Ancestors
  without an output are walked through.  A node is not its own ancestor.
-/
import FlowBench.Graph.Search
import FlowBench.Store
import FlowBench.Context

namespace FlowBench.FlowGraph

/-- Adds one ancestor to what a node sees. -/
def see (g : FlowGraph) (store : Store) (target : String) (u : Context)
    (met : String × Edge) : Context :=
  match store.output? met.1 with
  | none => u
  | some output =>
      { ordered := if met.2.target = target then u.ordered ++ [output] else u.ordered
        named := match g.node? met.1 with
          | some n => u.named.insert n.name output
          | none => u.named }

/-- What a node sees. -/
def collect (g : FlowGraph) (store : Store) (target : String) : Context :=
  (g.ancestors target).foldl (g.see store target) {}

end FlowBench.FlowGraph
