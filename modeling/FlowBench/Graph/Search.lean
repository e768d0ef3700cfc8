/-
  FlowBench.Graph.Search
  ──────────────────────
  **Breadth-first search.**

  `search` visits what can be reached from a queue of nodes, nearest first,
  and lists each newly met node once, with the label under which it was
  first met.  Reachability along edges and the collection of ancestors are
  both such searches.
-/
import FlowBench.Graph.Index

namespace FlowBench

namespace Search

variable {β : Type}

/-- The neighbours that were not met before, each once. -/
def fresh (met : List String) : List (String × β) → List (String × β)
  | [] => []
  | (x, b) :: rest =>
      if x ∈ met then fresh met rest else (x, b) :: fresh (x :: met) rest

/-- The nodes met from a queue on, in the order in which they are met.  Each
round takes one node off the queue; every node enters the queue at most
once, so a bound on the nodes bounds the rounds. -/
def search (next : String → List (String × β)) :
    Nat → List String → List String → List (String × β)
  | 0, _, _ => []
  | _, [], _ => []
  | rounds + 1, x :: queue, met =>
      let new := fresh met (next x)
      new ++ search next rounds (queue ++ new.map Prod.fst) (new.map Prod.fst ++ met)

end Search

namespace FlowGraph

/-- As many rounds as a search can take: the start, and the end of each
edge. -/
def rounds (g : FlowGraph) : Nat := g.edges.length + 1

/-- The nodes that can be reached from a node, itself apart. -/
def descendants (g : FlowGraph) (start : String) : List String :=
  (Search.search (fun x => (g.children x).map fun e => (e.target, e)) g.rounds [start] [start]).map
    Prod.fst

/-- Whether one node leads to another; each leads to itself. -/
def hasPath (g : FlowGraph) (source target : String) : Bool :=
  source = target || (g.descendants source).contains target

/-- The nodes that lead to a node, itself apart, each with the edge by which
it was first met. -/
def ancestors (g : FlowGraph) (target : String) : List (String × Edge) :=
  Search.search (fun x => (g.parents x).map fun e => (e.source, e)) g.rounds [target] [target]

end FlowGraph

end FlowBench
