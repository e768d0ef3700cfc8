/-
  FlowBench.Session.Request
  ─────────────────────────
  **What an executor is asked.**

  The request of a test: the node, its resolved configuration, what it saw,
  and the credentials that the configuration asks for.
-/
import FlowBench.Session.Basic
import FlowBench.Node.Schema

namespace FlowBench

/-- A request to run a node. -/
structure TestRequest where
  node : String
  name : String
  /-- The configuration, resolved. -/
  config : NodeConfig
  /-- What the node saw. -/
  context : Value
  credentials : Option Value := none

namespace TestRequest

/-- A request as a document. -/
def toDocument (r : TestRequest) : Document :=
  .record ([("node_id", .text r.node), ("name", .text r.name)] ++ r.config.fields
    ++ [("context", .ofValue r.context)]
    ++ Document.optionalField "credentials" (r.credentials.map .ofValue))

/-- A request as a value. -/
def toValue (r : TestRequest) : Value := r.toDocument.toValue

end TestRequest

/-- The request of a test, given the credentials it asked for. -/
def Flight.request (f : Flight) (credentials : Option Value) : TestRequest :=
  { node := f.node.id, name := f.node.name, config := f.resolved.config
    context := f.context.toValue, credentials := credentials }

/-- The credential that a test asks for. -/
def Flight.credentialId (f : Flight) : Option String := f.resolved.config.credentialId

/-- The credentials of a test, from what a source says of an id: none unless
the test asks for one. -/
def Flight.credentials (f : Flight) (source : String → Except Error Value) :
    Except Error (Option Value) :=
  match f.credentialId with
  | none => .ok none
  | some id => (source id).map some

/-- The credential with an id, from a source if there is one. -/
def credential (source : Option (Table Value)) (id : String) : Except Error Value :=
  match source.bind fun t => t.get? id with
  | some v => .ok v
  | none => .error (.credentialNotFound id)

end FlowBench
