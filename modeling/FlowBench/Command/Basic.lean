/-
  FlowBench.Command.Basic
  ───────────────────────
  **Commands on a session file.**

  Each command reads the file first; most only look at it.  A test runs one
  node, and writes the file only when it succeeded and was asked to.
-/
import FlowBench.Executor
import FlowBench.Graph.Cycle
import FlowBench.Workflow.File
import FlowBench.Workflow.Reference

namespace FlowBench

/-- A command. -/
inductive Command where
  /-- Tells what is wrong with a session file. -/
  | validate (file : String)
  /-- Shows what a node sees. -/
  | context (file node : String)
  /-- Shows a node's configuration, or a text, resolved. -/
  | resolve (file node : String) (text : Option String)
  /-- Shows which way data flows. -/
  | branches (file : String)
  /-- Tests a node, with an echo instead of the backend if asked for. -/
  | test (file node : String) (mock save : Bool)
  deriving DecidableEq, Repr

namespace Command

/-- The workflow in a session file. -/
def workflowIn (file : String) : Plan.Fallible Workflow := do
  let text ← Plan.textOf file
  Plan.give (Workflow.ofYaml text)

/-! ## §1. Looking. -/

/-- What there is to say about a workflow. -/
def findings (file : String) (w : Workflow) : List String :=
  ["✓ " ++ file ++ " (" ++ toString w.nodes.length ++ " nodes, " ++ toString w.edges.length
      ++ " edges)"]
    ++ ((FlowGraph.ofWorkflow w).cycle?.map fun cycle =>
      "  warning: cycle: " ++ String.intercalate " → " cycle).toList
    ++ w.deadReferences.map fun r =>
      "  warning: " ++ r.node ++ "." ++ r.field ++ " references '" ++ r.name ++ "' ("
        ++ r.reason.text ++ ")"

/-- What to say about the spans that stayed in place. -/
def unresolvedLines (r : ResolvedConfig) : List String :=
  r.fields.flatMap fun f =>
    f.unresolved.map fun span => "  unresolved " ++ f.field ++ ": " ++ span

/-- A name, padded to a column. -/
def column (name : String) : String :=
  name ++ String.ofList (List.replicate (24 - name.length) ' ')

/-- What a branch is shown as. -/
def branchText : Branch → String
  | .none => "none"
  | .all => "all"
  | .handle h => h

/-- The branch of each node, and the edges along which data flows. -/
def branchLines (s : Session) : List String :=
  (s.nodes.map fun n => column n.name ++ " " ++ branchText (n.branch (s.store.get? n.id)))
    ++ [""] ++ s.liveEdges.map fun e => "  → " ++ e.id

/-! ## §2. Testing. -/

/-- What runs a test: an echo, or the backend of the settings. -/
def executor (settings : Settings) (mock : Bool) : Except Error Executor :=
  if mock then .ok .echo else (Backend.ofSettings settings).map .backend

/-- Tests a node of a workflow; gives its output and the workflow with it. -/
def testNode (clock : String) (x : Executor) (w : Workflow) (node : String) :
    Plan.Fallible (Value × Workflow) := do
  let (s, result) ← (Session.ofWorkflow w).test clock x node
  let output ← Plan.give result
  return (output, s.snapshot)

/-! ## §3. Commands. -/

/-- What a command does. -/
def plan (clock : String) (settings : Settings) : Command → Plan.Fallible Unit
  | validate file => do
      let w ← workflowIn file
      Plan.printAll (findings file w)
  | context file node => do
      let w ← workflowIn file
      let u ← Plan.give ((Session.ofWorkflow w).context node)
      Plan.printAll [u.toValue.pretty]
  | resolve file node none => do
      let w ← workflowIn file
      let r ← Plan.give ((Session.ofWorkflow w).resolve clock node)
      Plan.printAll [Json.pretty r.config.toDocument]
      Plan.noteAll (unresolvedLines r)
  | resolve file node (some text) => do
      let w ← workflowIn file
      let text ← Plan.give ((Session.ofWorkflow w).resolveText clock node text)
      Plan.printAll [text]
  | branches file => do
      let w ← workflowIn file
      Plan.printAll (branchLines (.ofWorkflow w))
  | test file node mock save => do
      let w ← workflowIn file
      let x ← Plan.give (executor settings mock)
      Plan.printAll ["→ testing " ++ node ++ "..."]
      let (output, after) ← testNode clock x w node
      Plan.printAll [output.pretty]
      if save then
        Plan.replaceText file after.toYaml
        Plan.printAll ["✓ saved " ++ file]

end Command

end FlowBench
