/-
  FlowBench.Executor
  ──────────────────
  **What runs the tests of a session.**

  Either a backend, which also keeps the credentials, or an echo, which
  gives back what it was asked and knows no credentials.
-/
import FlowBench.Backend.Reply
import FlowBench.Bench.Script
import FlowBench.Session.Test

namespace FlowBench

/-- What runs tests. -/
inductive Executor where
  | echo
  | backend (b : Backend)

namespace Executor

/-- What an executor is called. -/
def name : Executor → String
  | echo => Script.executorName
  | backend _ => "http"

/-- Gets a credential. -/
def credential : Executor → String → Plan.Fallible Value
  | echo, id => Plan.give (FlowBench.credential none id)
  | backend b, id => b.credential id

/-- Runs a request; one that was cancelled before is not sent. -/
def run (x : Executor) (cancelled : Bool) (r : TestRequest) : Plan.Fallible Value :=
  match x with
  | echo => Plan.give (.ok (Script.echo r))
  | backend b => if cancelled then Plan.give (.error (.testCancelled r.node)) else b.test r

/-- Runs a test that was started: the credential first, if it asks for one. -/
def outcome (x : Executor) (f : Flight) : Plan.Fallible Value :=
  match f.credentialId with
  | none => x.run false (f.request none)
  | some id => do
      let v ← x.credential id
      x.run false (f.request (some v))

end Executor

/-- Tests a node from its start to its end.  The time it takes is not
measured. -/
def Session.test (clock : String) (x : Executor) (s : Session) (id : String) :
    Plan (Session × Except Error Value) :=
  match s.start clock id with
  | (s, .error e) => .done (s, .error e)
  | (s, .ok f) => (x.outcome f).run.bind fun result => .done (s.finish f result 0)

end FlowBench
