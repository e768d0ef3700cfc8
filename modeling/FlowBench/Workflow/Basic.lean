/-
  FlowBench.Workflow.Basic
  ────────────────────────
  **Nodes and edges.**

  A workflow is a list of nodes, a list of edges between them, and the
  outputs kept from earlier tests.  Nodes are told apart by id and shown by
  name; edges are told apart by id.  `validate` checks that ids, names and
  edge ids are not repeated, that every edge runs between existing nodes and
  leaves by a way out that its source has, and that outputs belong to nodes.
-/
import FlowBench.Error
import FlowBench.Json.Value
import FlowBench.Node.Config

namespace FlowBench

/-- A configured step. -/
structure Node where
  id : String
  /-- The display name, by which references find it. -/
  name : String
  config : NodeConfig
  deriving DecidableEq, Inhabited

/-- A connection from one node to another. -/
structure Edge where
  id : String
  source : String
  target : String
  /-- The way out of the source, if it has several. -/
  handle : Option String := none
  deriving DecidableEq, Inhabited

/-- The id of a connection that is not given one. -/
def Edge.derivedId (source target : String) : Option String → String
  | some handle => source ++ ":" ++ handle ++ "->" ++ target
  | none => source ++ "->" ++ target

/-- A connection with a derived id. -/
def Edge.connect (source target : String) (handle : Option String) : Edge :=
  ⟨Edge.derivedId source target handle, source, target, handle⟩

/-- Nodes, edges, and outputs by node id. -/
structure Workflow where
  nodes : List Node := []
  edges : List Edge := []
  outputs : Table Value := Table.empty
  deriving Inhabited

namespace Workflow

/-- The node with an id. -/
def node? (w : Workflow) (id : String) : Option Node := w.nodes.find? fun n => n.id = id

/-- The node with a display name. -/
def nodeByName? (w : Workflow) (name : String) : Option Node :=
  w.nodes.find? fun n => n.name = name

/-- Both ends exist, and the way out, if named, is one of the source's. -/
def checkEdge (w : Workflow) (e : Edge) : Except Error Unit :=
  match w.node? e.source with
  | none => .error (.danglingEdge e.id e.source)
  | some source =>
      if (w.node? e.target).isNone then .error (.danglingEdge e.id e.target)
      else
        match e.handle with
        | some h =>
            if h ∈ source.config.handles then .ok () else .error (.unknownHandle e.id source.id h)
        | none => .ok ()

/-- No id and no name is repeated, given those seen before. -/
def checkNodes (ids names : List String) : List Node → Except Error Unit
  | [] => .ok ()
  | n :: rest =>
      if n.id ∈ ids then .error (.duplicateNodeId n.id)
      else if n.name ∈ names then .error (.duplicateName n.name)
      else checkNodes (n.id :: ids) (n.name :: names) rest

/-- Every edge fits and no edge id is repeated, given those seen before. -/
def checkEdges (w : Workflow) (seen : List String) : List Edge → Except Error Unit
  | [] => .ok ()
  | e :: rest => do
      w.checkEdge e
      if e.id ∈ seen then .error (.duplicateEdgeId e.id)
      else w.checkEdges (e.id :: seen) rest

/-- Every output belongs to a node. -/
def checkOutputs (w : Workflow) : Except Error Unit :=
  match w.outputs.keys.find? fun id => (w.node? id).isNone with
  | some id => .error (.nodeNotFound id)
  | none => .ok ()

/-- Checks a workflow; the first fault is reported, nodes before edges
before outputs. -/
def validate (w : Workflow) : Except Error Unit := do
  checkNodes [] [] w.nodes
  w.checkEdges [] w.edges
  w.checkOutputs

/-- What makes a workflow sound, told without the order of checking. -/
structure Valid (w : Workflow) : Prop where
  ids : (w.nodes.map Node.id).Nodup
  names : (w.nodes.map Node.name).Nodup
  edgeIds : (w.edges.map Edge.id).Nodup
  sources : ∀ e ∈ w.edges, ∃ n ∈ w.nodes, n.id = e.source
  targets : ∀ e ∈ w.edges, ∃ n ∈ w.nodes, n.id = e.target
  handles : ∀ e ∈ w.edges, ∀ h, e.handle = some h →
    ∀ n ∈ w.nodes, n.id = e.source → h ∈ n.config.handles
  outputs : ∀ id ∈ w.outputs.keys, ∃ n ∈ w.nodes, n.id = id

end Workflow

end FlowBench
