import FlowBench.Json.Reader
import FlowBench.Yaml.Printer
import FlowBench.Node.Resolved
import FlowBench.Workflow.Edit
import FlowBench.Workflow.Schema
import FlowBench.Graph.Cycle
import FlowBench.Graph.Collect
import FlowBench.Branch
import FlowBench.Gate
import FlowBench.Event.Log
import FlowBench.Settings.Basic
import FlowBench.Workflow.File
import FlowBench.Bench.Turns
import FlowBench.Url.Parser
import FlowBench.Executor
import FlowBench.Plan.Rehearsal
import FlowBench.Main
import FlowBench.Proofs.Session.Permits
import FlowBench.Proofs.Session.Cancellation
import FlowBench.Proofs.Graph.Collect
import FlowBench.Proofs.Session.Soundness
import FlowBench.Proofs.Template.Cut
import FlowBench.Proofs.Template.Resolve
import FlowBench.Proofs.Bench.Quiet
import FlowBench.Proofs.Gate.History
import FlowBench.Proofs.Session.Replay
import FlowBench.Proofs.Session.Accounting
import FlowBench.Proofs.Branch
import FlowBench.Proofs.Session.Warnings
import FlowBench.Proofs.Graph.Path
import FlowBench.Proofs.Reference
import FlowBench.Proofs.Workflow.Reference
import FlowBench.Proofs.Session.Reopening
import FlowBench.Proofs.Session.Independence
import FlowBench.Proofs.Document
import FlowBench.Proofs.Yaml.Tree
import FlowBench.Proofs.Shape
import FlowBench.Proofs.Node.Schema
import FlowBench.Proofs.Workflow.File
import FlowBench.Proofs.Context
import FlowBench.Proofs.Graph.Edit
import FlowBench.Proofs.Backend.Address
import FlowBench.Proofs.Session.Request
import FlowBench.Proofs.Path
import FlowBench.Proofs.Reference.Forms
import FlowBench.Proofs.Template.Dependency
import FlowBench.Proofs.Workflow.Building
import FlowBench.Proofs.Workflow.Fault
import FlowBench.Proofs.Reference.Spelling
import FlowBench.Proofs.Template.Qualified
import FlowBench.Proofs.Template.Again
import FlowBench.Proofs.Node.Resolved
import FlowBench.Proofs.Branch.Exclusive
import FlowBench.Proofs.Graph.Cycle
import FlowBench.Proofs.Text.Blank
import FlowBench.Proofs.Path.Grammar
import FlowBench.Proofs.Workflow.Naming
import FlowBench.Proofs.Backend.Reply
import FlowBench.Proofs.Path.Lookup
import FlowBench.Proofs.Store.History
import FlowBench.Proofs.Workflow.Connection
import FlowBench.Proofs.Command.Test
