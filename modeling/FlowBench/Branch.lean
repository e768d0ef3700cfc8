/-
  FlowBench.Branch
  ────────────────
  **Which way data leaves a node.**

  A condition leaves by `true` or `false`, as its output says; a switch by
  the rule that its output names, or by the fallback when it names none.  A
  way out that the switch does not have selects nothing.  Every other node
  leaves by all its edges once it has an output.  While a node's latest test
  failed, nothing leaves it.
-/
import FlowBench.Graph.Index
import FlowBench.Store

namespace FlowBench

/-- The edges by which data leaves a node. -/
inductive Branch where
  | none
  /-- Those with a way out. -/
  | handle (h : String)
  | all
  deriving DecidableEq, Repr

namespace Branch

/-- The way out that is selected, if one is. -/
def handle? : Branch → Option String
  | .handle h => some h
  | _ => Option.none

/-- Whether data leaves by an edge of the node. -/
def allows (b : Branch) (e : Edge) : Bool :=
  match b with
  | .none => false
  | .all => true
  | .handle h => e.handle = some h

end Branch

/-- The way out that an output selects. -/
def NodeConfig.activeHandle (c : NodeConfig) (output : Value) : Option String :=
  match c with
  | .conditional _ =>
      ((output.field? "result").bind Value.bool?).map fun b =>
        if b then trueHandle else falseHandle
  | .switch s =>
      ((output.field? "matchedOutput").bind Value.int64?).bind fun i =>
        if i < 0 then (if s.fallback then some fallbackHandle else none)
        else if i < s.rules.length then some (ruleHandle i.toNat)
        else none
  | _ => none

/-- Whether a node chooses among its ways out. -/
def NodeConfig.chooses : NodeConfig → Bool
  | .conditional _ => true
  | .switch _ => true
  | _ => false

/-- The branch of a node, given what is known of it. -/
def Node.branch (n : Node) (state : Option NodeState) : Branch :=
  match state.bind fun s => if s.isLive then s.output else none with
  | none => .none
  | some output =>
      if n.config.chooses then
        match n.config.activeHandle output with
        | some h => .handle h
        | none => .none
      else .all

namespace FlowGraph

/-- Whether data flows along an edge. -/
def isLive (g : FlowGraph) (store : Store) (e : Edge) : Bool :=
  match g.node? e.source with
  | some n => (n.branch (store.get? e.source)).allows e
  | none => false

/-- The edges along which data flows, in order. -/
def liveEdges (g : FlowGraph) (store : Store) : List Edge := g.edges.filter (g.isLive store)

end FlowGraph

end FlowBench
