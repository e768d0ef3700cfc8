/-
  FlowBench.Workflow.File
  ───────────────────────
  **Session files.**

  A workflow is kept in a YAML file, with its outputs.  Reading one checks
  the workflow.
-/
import FlowBench.Workflow.Schema
import FlowBench.Yaml.Printer
import FlowBench.Yaml.Reader

namespace FlowBench.Workflow

/-- The text of a workflow's session file. -/
def toYaml (w : Workflow) : String := Yaml.print w.toDocument

/-- Reads a workflow from the text of a session file. -/
def ofYaml (text : String) : Except Error Workflow :=
  match Yaml.readAs shape text with
  | .error .malformed => .error .malformedSession
  | .error (.misshapen fault) => .error (.parse fault.message)
  | .ok v => do
      let w := ofShaped v
      w.validate
      return w

end FlowBench.Workflow
