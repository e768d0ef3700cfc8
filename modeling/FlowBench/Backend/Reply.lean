/-
  FlowBench.Backend.Reply
  ───────────────────────
  **What a backend's replies mean.**

  A test gives an output or a message of failure.  Whatever else comes back
  is a failure of the backend, which keeps the status.
-/
import FlowBench.Backend.Basic
import FlowBench.Plan.Basic

namespace FlowBench

/-- The message of failure in a value. -/
def errorText? (v : Value) : Option String := (v.field? "error").bind Value.str?

/-- The result of a test of a node, from the reply. -/
def Http.Reply.output (r : Http.Reply) (node : String) : Except Error Value :=
  match errorText? r.value with
  | some message =>
      if r.succeeded then .error (.execution node message) else .error (.backend r.status message)
  | none =>
      if r.succeeded then
        match r.value.field? "output" with
        | some v => .ok v
        | none =>
            .error (.backend r.status
              ("response has neither output nor error: " ++ r.value.compact))
      else .error (.backend r.status r.value.compact)

/-- The credential with an id, from the reply. -/
def Http.Reply.credential (r : Http.Reply) (id : String) : Except Error Value :=
  if r.status = 404 then .error (.credentialNotFound id)
  else if r.succeeded then .ok r.value
  else .error (.backend r.status ((errorText? r.value).getD r.value.compact))

namespace Backend

/-- Gets a credential. -/
def credential (b : Backend) (id : String) : Plan.Fallible Value := do
  let reply ← Plan.exchange (b.credentialRequest id)
  Plan.give (reply.credential id)

/-- Runs a test. -/
def test (b : Backend) (r : TestRequest) : Plan.Fallible Value := do
  let reply ← Plan.exchange (b.testRequest r)
  Plan.give (reply.output r.node)

end Backend

end FlowBench
