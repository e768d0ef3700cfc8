/-
  FlowBench.Graph.Cycle
  ─────────────────────
  **Finding a cycle.**

  A depth-first search that keeps the path it came by and the nodes it is
  done with.  An edge back to the path closes a cycle, and the first one met
  is reported: the nodes along it, with the first repeated at the end.
-/
import FlowBench.Graph.Index

namespace FlowBench.FlowGraph

/-- The cycle that an edge back to `node` closes, by the path to here with
the latest node first. -/
def closedBy (path : List String) (node : String) : List String :=
  node :: (path.takeWhile (· ≠ node)).reverse ++ [node]

/-- Searches on from a node.  Gives the cycle that was met, or else the
nodes that are done with.  A path never repeats a node, so the number of
edges bounds how deep it gets. -/
def visit (g : FlowGraph) :
    Nat → List String → List String → String → Except (List String) (List String)
  | 0, _, done, _ => .ok done
  | depth + 1, path, done, node => do
      let path := node :: path
      let done ← (g.children node).foldlM (fun done e =>
        if e.target ∈ path then .error (closedBy path e.target)
        else if e.target ∈ done then .ok done
        else g.visit depth path done e.target) done
      return node :: done

/-- A cycle, if there is one. -/
def cycle? (g : FlowGraph) : Option (List String) :=
  let result : Except (List String) (List String) := g.ids.foldlM (fun done id =>
    if id ∈ done then .ok done else g.visit (g.edges.length + 1) [] done id) []
  match result with
  | .error cycle => some cycle
  | .ok _ => none

end FlowBench.FlowGraph
