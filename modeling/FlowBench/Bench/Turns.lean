/-
  FlowBench.Bench.Turns
  ─────────────────────
  **A bench.**

  A bench runs the tests of a session with a scripted executor, one at a
  time.  Whatever gives a test something to do, its start, a release or its
  cancellation, gives it a turn; turns are taken in the order in which they
  were given.  A test runs on until it is finished or has to wait.  Tests
  take no time.
-/
import FlowBench.Bench.Script
import FlowBench.Session.Edit
import FlowBench.Session.Test

namespace FlowBench

/-- How far a test has come. -/
inductive Stage where
  /-- It has been asked for. -/
  | asked (node : String)
  /-- It waits for the executor to give it a value. -/
  | waiting (flight : Flight) (v : Value)
  | over (result : Except Error Value)

/-- A session on the bench. -/
structure Bench where
  session : Session
  script : Script
  /-- Where credentials come from. -/
  source : Option (Table Value) := none
  /-- All tests, by number. -/
  stages : Array Stage := #[]
  /-- The tests that have a turn, by number. -/
  turns : List Nat := []

namespace Bench

/-! ## §1. Giving turns. -/

/-- Gives a test a turn, if it has none. -/
def giveTurn (b : Bench) (number : Nat) : Bench :=
  if b.turns.contains number then b else { b with turns := b.turns ++ [number] }

/-- Gives a test a turn if one is named. -/
def giveTurn? (b : Bench) (number : Option Nat) : Bench :=
  match number with
  | some n => b.giveTurn n
  | none => b

/-- Asks for a test of a node; gives its number. -/
def ask (b : Bench) (node : String) : Bench × Nat :=
  ({ b with stages := b.stages.push (.asked node) }.giveTurn b.stages.size, b.stages.size)

/-- Releases a waiting test. -/
def release (b : Bench) : Bench :=
  let (script, number) := b.script.release
  { b with script := script }.giveTurn? number

/-- Whether a test waits on a permit. -/
def waitsOn (p : Permit) : Stage → Bool
  | .waiting f _ => f.permit = p
  | _ => false

/-- The test that runs for a node, by number, if it waits. -/
def runningTest? (b : Bench) (node : String) : Option Nat :=
  (b.session.gate.running.get? node).bind fun number =>
    b.stages.toList.findIdx? (waitsOn ⟨node, number⟩)

/-- Cancels the running test of a node; tells whether there was one. -/
def cancel (b : Bench) (node : String) : Bench × Bool :=
  let (session, found) := b.session.cancel node
  ({ b with session := session }.giveTurn? (b.runningTest? node), found)

/-- Removes a node, which ends its running test. -/
def removeNode (b : Bench) (id : String) : Except Error Bench :=
  (b.session.removeNode id).map fun session =>
    { b with session := session }.giveTurn? (b.runningTest? id)

/-! ## §2. Taking turns. -/

/-- Puts a test at a stage. -/
def setStage (b : Bench) (number : Nat) (stage : Stage) : Bench :=
  { b with stages := b.stages.setIfInBounds number stage }

/-- Finishes a test with a result. -/
def finish (b : Bench) (number : Nat) (f : Flight) (result : Except Error Value) : Bench :=
  let (session, result) := b.session.finish f result 0
  { b with session := session }.setStage number (.over result)

/-- The credentials of a test. -/
def credentialsOf (b : Bench) (f : Flight) : Except Error (Option Value) :=
  f.credentials (credential b.source)

/-- Starts a test that was asked for. -/
def begin (clock : String) (b : Bench) (number : Nat) (node : String) : Bench :=
  let (session, started) := b.session.start clock node
  let b := { b with session := session }
  match started with
  | .error e => b.setStage number (.over (.error e))
  | .ok f =>
      match b.credentialsOf f with
      | .error e => b.finish number f (.error e)
      | .ok credentials =>
          let (script, reply) := b.script.call number (f.request credentials)
          let b := { b with script := script }
          match reply with
          | .answer result => b.finish number f result
          | .wait v => b.setStage number (.waiting f v)

/-- Takes the turn of a test that waits: it is cancelled, or goes on with its
value if it was released. -/
def resume (b : Bench) (number : Nat) (f : Flight) (v : Value) : Bench :=
  let arrival := if b.script.isReleased number then .result (.ok v) else .nothing
  match b.session.resume f arrival 0 with
  | (session, .returns result) =>
      let (script, next) :=
        if b.session.gate.isCancelled f.permit then b.script.withdraw number
        else (b.script.leave number, none)
      ({ b with session := session, script := script }.setStage number (.over result)).giveTurn? next
  | _ => b

/-- Takes the turn of a test. -/
def takeTurn (clock : String) (b : Bench) (number : Nat) : Bench :=
  match b.stages[number]? with
  | some (.asked node) => b.begin clock number node
  | some (.waiting f v) => b.resume number f v
  | _ => b

/-- Takes turns, up to a number of them, until there are none. -/
def takeTurns (clock : String) : Nat → Bench → Bench
  | 0, b => b
  | left + 1, b =>
      match b.turns with
      | [] => b
      | number :: rest => takeTurns clock left ({ b with turns := rest }.takeTurn clock number)

/-- Runs the tests until none has anything to do.  A test that ends gives at
most one other a turn, so the turns and the tests bound their number. -/
def run (clock : String) (b : Bench) : Bench :=
  takeTurns clock (b.turns.length + b.stages.size) b

/-- The result of a test that is over. -/
def result? (b : Bench) (number : Nat) : Option (Except Error Value) :=
  match b.stages[number]? with
  | some (.over result) => some result
  | _ => none

end Bench

end FlowBench
