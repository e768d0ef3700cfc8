/-
  FlowBench.Session.Edit
  ──────────────────────
  **Edits in a session.**

  The edits of the workflow, recorded.  The graph is built anew after each.
  Removing a node also ends its running test and forgets what its tests left
  behind.
-/
import FlowBench.Session.Basic
import FlowBench.Workflow.Edit

namespace FlowBench.Session

/-- The session with another workflow. -/
def replace (s : Session) (w : Workflow) : Session :=
  { s with workflow := w, graph := .ofWorkflow w }

/-- Adds a node. -/
def addNode (s : Session) (id : String) (name : Option String) (config : NodeConfig) :
    Except Error (Session × Node) :=
  (s.workflow.addNode id name config).map fun (w, n) =>
    ((s.replace w).emit (.nodeAdded id n.name), n)

/-- Renames a node; gives the name that it got. -/
def renameNode (s : Session) (id name : String) : Except Error (Session × String) :=
  let before := ((s.workflow.node? id).map Node.name).getD ""
  (s.workflow.renameNode id name).map fun (w, after) =>
    ((s.replace w).emit (.nodeRenamed id before after), after)

/-- Removes a node. -/
def removeNode (s : Session) (id : String) : Except Error Session :=
  (s.workflow.removeNode id).map fun (w, _) =>
    let s := s.replace w
    { s with gate := (s.gate.cancel id).1, store := s.store.clear id }.emit (.nodeRemoved id)

/-- Adds an edge; tells whether it is new. -/
def addEdge (s : Session) (e : Edge) : Except Error (Session × Bool) :=
  (s.workflow.addEdge e).map fun (w, new) =>
    let s := s.replace w
    (if new then s.emit (.edgeAdded e.id) else s, new)

end FlowBench.Session
