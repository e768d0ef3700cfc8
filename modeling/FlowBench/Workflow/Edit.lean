/-
  FlowBench.Workflow.Edit
  ───────────────────────
  **Edits.**

  Adding, renaming and removing a node and adding an edge.  An edit either
  fails and changes nothing or gives the new workflow.  A display name that
  is taken gets the least number behind it that makes it free.
-/
import FlowBench.Workflow.Basic

namespace FlowBench.Workflow

/-! ## §1. Free names. -/

/-- Whether a node other than the excluded one has a name. -/
def isTaken (w : Workflow) (exclude : Option String) (name : String) : Bool :=
  w.nodes.any fun n => n.name = name && some n.id ≠ exclude

/-- The first free name: the base itself, else the base with the least free
number from 1 on.  One of as many numbers as there are nodes is free. -/
def uniqueName (w : Workflow) (base : String) (exclude : Option String) : String :=
  if w.isTaken exclude base then
    let candidates := (List.range' 1 w.nodes.length).map fun n => base ++ toString n
    (candidates.find? fun name => !w.isTaken exclude name).getD base
  else base

/-! ## §2. Nodes. -/

/-- Adds a node at the end. -/
def addNode (w : Workflow) (id : String) (name : Option String) (config : NodeConfig) :
    Except Error (Workflow × Node) :=
  if (w.node? id).isSome then .error (.duplicateNodeId id)
  else
    let n : Node := ⟨id, w.uniqueName (name.getD config.kind.defaultName) none, config⟩
    .ok ({ w with nodes := w.nodes ++ [n] }, n)

/-- Gives the first node with an id a name. -/
def setName (id name : String) : List Node → List Node
  | [] => []
  | n :: rest => if n.id = id then { n with name := name } :: rest else n :: setName id name rest

/-- Renames a node; gives the name that it got. -/
def renameNode (w : Workflow) (id name : String) : Except Error (Workflow × String) :=
  if (w.node? id).isNone then .error (.nodeNotFound id)
  else
    let free := w.uniqueName name (some id)
    .ok ({ w with nodes := setName id free w.nodes }, free)

/-- Removes a node, the edges at it and its output. -/
def removeNode (w : Workflow) (id : String) : Except Error (Workflow × Node) :=
  match w.node? id with
  | none => .error (.nodeNotFound id)
  | some n =>
      .ok ({ nodes := w.nodes.eraseP fun m => m.id = id
             edges := w.edges.filter fun e => e.source ≠ id && e.target ≠ id
             outputs := w.outputs.erase id }, n)

/-! ## §3. Edges. -/

/-- Adds an edge at the end; tells whether it is new.  The very same edge
may be added again, another one with its id may not. -/
def addEdge (w : Workflow) (e : Edge) : Except Error (Workflow × Bool) := do
  w.checkEdge e
  match w.edges.find? fun f => f.id = e.id with
  | some f => if f = e then return (w, false) else .error (.duplicateEdgeId e.id)
  | none => return ({ w with edges := w.edges ++ [e] }, true)

end FlowBench.Workflow
