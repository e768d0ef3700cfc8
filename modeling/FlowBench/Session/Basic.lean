/-
  FlowBench.Session.Basic
  ───────────────────────
  **Sessions.**

  A session is a workflow under edit: its graph, what its tests left behind,
  the gate that keeps two tests of a node apart, the log of what happened,
  the tests that are under way, and the warnings given so far.  The queries
  look at the graph and the store as they are now.
-/
import FlowBench.Branch
import FlowBench.Event.Log
import FlowBench.Gate
import FlowBench.Graph.Collect
import FlowBench.Node.Resolved

namespace FlowBench

/-! ## §1. State. -/

/-- A warning. -/
inductive Warning where
  /-- A test of a node was asked for while one was running. -/
  | rejected (node : String)
  /-- What a parent left behind comes by a way out that is not selected. -/
  | inactiveParent (node parent edge : String)
  /-- What a parent left behind is older than its latest, failed test. -/
  | staleParent (node parent : String)
  | failed (node : String) (error : Error) (keepsOutput : Bool)
  deriving DecidableEq, Repr

/-- A test under way: the node as it was when the test was admitted, what it
saw then, and its configuration resolved against that. -/
structure Flight where
  permit : Permit
  node : Node
  context : Context
  resolved : ResolvedConfig

/-- A session. -/
structure Session where
  workflow : Workflow
  graph : FlowGraph
  store : Store
  gate : Gate := {}
  log : EventLog
  /-- The tests under way, in the order of their admission. -/
  flights : List Flight := []
  /-- The warnings so far. -/
  warnings : List Warning := []

namespace Session

/-- Opens a session on a workflow; the outputs kept in it are those of the
store. -/
def ofWorkflow (w : Workflow) : Session :=
  { workflow := w
    graph := .ofWorkflow w
    store := .ofOutputs w.outputs
    log := EventLog.emit {} (.sessionOpened w.nodes.length w.edges.length) }

/-- Records an event. -/
def emit (s : Session) (k : EventKind) : Session := { s with log := s.log.emit k }

/-- Records events. -/
def emitAll (s : Session) (ks : List EventKind) : Session := { s with log := s.log.emitAll ks }

/-- Gives a warning. -/
def warn (s : Session) (w : Warning) : Session := { s with warnings := s.warnings ++ [w] }

/-- Gives warnings. -/
def warnAll (s : Session) (ws : List Warning) : Session := { s with warnings := s.warnings ++ ws }

/-! ## §2. Queries. -/

/-- The nodes in order. -/
def nodes (s : Session) : List Node := s.graph.nodes

/-- The node with an id, or a failure. -/
def node (s : Session) (id : String) : Except Error Node :=
  match s.graph.node? id with
  | some n => .ok n
  | none => .error (.nodeNotFound id)

/-- What a node sees. -/
def context (s : Session) (id : String) : Except Error Context :=
  (s.node id).map fun _ => s.graph.collect s.store id

/-- A node's configuration, resolved. -/
def resolve (clock : String) (s : Session) (id : String) : Except Error ResolvedConfig :=
  (s.node id).map fun n => n.config.resolve clock (s.graph.collect s.store id)

/-- A text, resolved as if it stood in a node. -/
def resolveText (clock : String) (s : Session) (id text : String) : Except Error String :=
  (s.context id).map fun u => (Template.resolve clock u text).text

/-- The branch of a node. -/
def branch (s : Session) (id : String) : Except Error Branch :=
  (s.node id).map fun n => n.branch (s.store.get? id)

/-- The edges along which data flows. -/
def liveEdges (s : Session) : List Edge := s.graph.liveEdges s.store

/-- The workflow with the outputs of the store. -/
def snapshot (s : Session) : Workflow := { s.workflow with outputs := s.store.outputs }

/-- What a session is shown as; `executor` is what runs its tests. -/
def describe (s : Session) (executor : String) : String :=
  "EditorSession \x7b nodes: " ++ toString s.graph.ids.length
    ++ ", edges: " ++ toString s.graph.edges.length
    ++ ", store: " ++ s.store.describe
    ++ ", running: [" ++ String.intercalate ", " (s.gate.runningNodes.map quoted)
    ++ "], executor: " ++ quoted executor ++ " \x7d"

end Session

end FlowBench
