/-
  FlowBench.Workflow.Schema
  ─────────────────────────
  **Workflows as data.**

  The shape of a session file, the workflow read from data of that shape,
  and the document a workflow is written as.  A node without a name gets its
  kind's, an edge without an id gets the derived one; no edges and no
  outputs are left out when writing.
-/
import FlowBench.Node.Schema
import FlowBench.Workflow.Basic

namespace FlowBench

open Shape (needed usual)

/-! ## §1. Edges. -/

namespace Edge

/-- The shape of an edge. -/
def shape : Shape :=
  .record "struct EdgeRaw"
    [usual "id" (.orNull .text), needed "source" .text, needed "target" .text,
      usual "handle" (.orNull .text)]

/-- The edge that data of its shape describes. -/
def ofShaped (v : Value) : Edge :=
  let e := Edge.connect (v.textAtD "source" "") (v.textAtD "target" "") (v.textAt? "handle")
  { e with id := (v.textAt? "id").getD e.id }

/-- Reads an edge. -/
def read (v : Value) : Except ShapeError Edge := (shape.read .direct v).map ofShaped

/-- An edge as a document. -/
def toDocument (e : Edge) : Document :=
  .record ([("id", .text e.id), ("source", .text e.source), ("target", .text e.target)]
    ++ NodeConfig.optionalText "handle" e.handle)

end Edge

/-! ## §2. Nodes. -/

namespace Node

/-- The kind under a key. -/
def kindAt (v : Value) : NodeKind :=
  ((v.textAt? "type").bind NodeKind.ofWord?).getD .manual

/-- Checks a node's configuration against its kind. -/
def checkConfig (v : Value) : Except ShapeError Value :=
  let config := match v.field? "config" with
    | some .null => none
    | other => other
  match (kindAt v).shape.read .held (config.getD (.obj [])) with
  | .ok shaped =>
      .ok (.object [("id", (v.field? "id").getD .null), ("name", (v.field? "name").getD .null),
        ("type", (v.field? "type").getD .null), ("config", shaped)])
  | .error cause => .error (.inNode (v.textAtD "id" "") (kindAt v).word cause)

/-- The shape of a node. -/
def shape : Shape :=
  .refined
    (.record "struct NodeRaw"
      [needed "id" .text, usual "name" (.orNull .text), needed "type" (.choice NodeKind.words),
        usual "config" (.orNull .any)])
    checkConfig

/-- The node that data of its shape describes. -/
def ofShaped (v : Value) : Node :=
  let kind := kindAt v
  { id := v.textAtD "id" "", name := v.textAtD "name" kind.defaultName
    config := NodeConfig.ofShaped kind ((v.field? "config").getD .null) }

/-- A node as a document. -/
def toDocument (n : Node) : Document :=
  .record ([("id", .text n.id), ("name", .text n.name)] ++ n.config.fields)

end Node

/-! ## §3. Workflows. -/

namespace Workflow

/-- The shape of a workflow. -/
def shape : Shape :=
  .record "struct WorkflowRaw"
    [usual "nodes" (.list Node.shape), usual "edges" (.list Edge.shape),
      usual "outputs" (.table .any)]

/-- The workflow that data of its shape describes. -/
def ofShaped (v : Value) : Workflow :=
  { nodes := (v.listAt "nodes").map Node.ofShaped
    edges := (v.listAt "edges").map Edge.ofShaped
    outputs := v.tableAt "outputs" }

/-- Reads a workflow, unchecked. -/
def read (v : Value) : Except ShapeError Workflow := (shape.read .direct v).map ofShaped

/-- A workflow as a document. -/
def toDocument (w : Workflow) : Document :=
  .record ([("nodes", .list (w.nodes.map Node.toDocument))]
    ++ (if w.edges.isEmpty then [] else [("edges", .list (w.edges.map Edge.toDocument))])
    ++ (if w.outputs.isEmpty then []
      else [("outputs", Document.ofValue (Value.ofTable w.outputs))]))

end Workflow

end FlowBench
