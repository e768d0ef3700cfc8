/-
  FlowBench.Gate
  ──────────────
  **At most one running test per node.**

  An admitted test holds a permit with a number of its own.  Cancelling a
  node takes the entry of its running test away and fires that test's
  signal; a permit may commit only while its entry is there and its signal
  has not fired.  Giving a permit back removes its own entry and no other,
  so that a test that was cancelled cannot disturb the next one.

  Numbers are counted up without a bound, so that no two permits share one.
  A counter of 64 bits gives the same numbers to the first 2^64 permits.
-/
import FlowBench.Error
import FlowBench.Table

namespace FlowBench

/-- Leave to test a node. -/
structure Permit where
  node : String
  number : Nat
  deriving DecidableEq, Repr

/-- The running tests by node, the number of the next permit, and the
permits whose signal has fired. -/
structure Gate where
  running : Table Nat := Table.empty
  next : Nat := 0
  fired : List Nat := []
  deriving DecidableEq

instance : Inhabited Gate := ⟨{}⟩

namespace Gate

/-- Whether a test of a node is running. -/
def isRunning (g : Gate) (node : String) : Bool := (g.running.get? node).isSome

/-- The nodes with a running test, in order. -/
def runningNodes (g : Gate) : List String := g.running.keys

/-- Enters a running test under the next number. -/
def enter (g : Gate) (node : String) : Gate :=
  { g with running := g.running.insert node g.next, next := g.next + 1 }

/-- Admits a test, or rejects it when one is running. -/
def acquire (g : Gate) (node : String) : Except Error (Gate × Permit) :=
  if g.isRunning node then .error (.testInProgress node)
  else .ok (g.enter node, ⟨node, g.next⟩)

/-- Cancels the running test of a node; tells whether there was one. -/
def cancel (g : Gate) (node : String) : Gate × Bool :=
  match g.running.get? node with
  | some number => ({ g with running := g.running.erase node, fired := number :: g.fired }, true)
  | none => (g, false)

/-- Whether a permit's signal has fired. -/
def isCancelled (g : Gate) (p : Permit) : Bool := g.fired.contains p.number

/-- Whether a permit may commit. -/
def mayCommit (g : Gate) (p : Permit) : Bool :=
  g.running.get? p.node = some p.number && !g.isCancelled p

/-- Gives a permit back. -/
def release (g : Gate) (p : Permit) : Gate :=
  if g.running.get? p.node = some p.number then { g with running := g.running.erase p.node } else g

end Gate

end FlowBench
