/-
  FlowBench.Store
  ───────────────
  **What the tests left behind.**

  Per node the output of its latest successful test, the error of its latest
  test if that failed, and the time the latest success took.  A failure
  keeps the output, which is then stale.
-/
import FlowBench.Json.Value

namespace FlowBench

/-- A failed test. -/
structure TestError where
  message : String
  /-- How long it took, in milliseconds. -/
  duration : Nat
  deriving DecidableEq, Repr

/-- What is known of one node. -/
structure NodeState where
  output : Option Value := none
  error : Option TestError := none
  /-- How long the latest success took, in milliseconds. -/
  duration : Option Nat := none
  deriving Inhabited

namespace NodeState

/-- There is an output, and the latest test did not fail. -/
def isLive (s : NodeState) : Bool := s.output.isSome && s.error.isNone

/-- There is an output, but the latest test failed. -/
def isStale (s : NodeState) : Bool := s.output.isSome && s.error.isSome

end NodeState

/-- Node states by node id. -/
structure Store where
  states : Table NodeState := Table.empty
  deriving Inhabited

namespace Store

/-- The state of a node, if anything is known of it. -/
def get? (s : Store) (id : String) : Option NodeState := s.states.get? id

/-- Replaces whatever is known of a node by an output. -/
def seed (s : Store) (id : String) (output : Value) : Store :=
  ⟨s.states.insert id { output := some output }⟩

/-- A test succeeded. -/
def succeed (s : Store) (id : String) (output : Value) (duration : Nat) : Store :=
  ⟨s.states.insert id { output := some output, error := none, duration := some duration }⟩

/-- A test failed; the output stays. -/
def fail (s : Store) (id : String) (message : String) (duration : Nat) : Store :=
  ⟨s.states.insert id { (s.get? id).getD {} with error := some ⟨message, duration⟩ }⟩

/-- Forgets a node. -/
def clear (s : Store) (id : String) : Store := ⟨s.states.erase id⟩

/-- The output kept of a node. -/
def output? (s : Store) (id : String) : Option Value := (s.get? id).bind NodeState.output

/-- The error of a node's latest test. -/
def error? (s : Store) (id : String) : Option TestError := (s.get? id).bind NodeState.error

/-- Whether a node's output is stale. -/
def isStale (s : Store) (id : String) : Bool := ((s.get? id).map NodeState.isStale).getD false

/-- The outputs, by node id. -/
def outputs (s : Store) : Table Value := s.states.filterMap NodeState.output

/-- The number of nodes that something is known of. -/
def size (s : Store) : Nat := s.states.size

/-- Seeds every output of a table. -/
def ofOutputs (outputs : Table Value) : Store :=
  outputs.entries.foldl (fun s e => s.seed e.1 e.2) {}

/-- What a store is shown as. -/
def describe (s : Store) : String := "DataStore \x7b len: " ++ toString s.size ++ " \x7d"

end Store

end FlowBench
