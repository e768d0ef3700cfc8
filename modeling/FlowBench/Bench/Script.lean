/-
  FlowBench.Bench.Script
  ──────────────────────
  **A scripted executor.**

  It answers the calls it gets from a list, in order: with an output, with a
  failure, or with an output that is held back until it is released.  When
  the list is used up a call gets back what it asked.  Releases go to the
  waiting calls in the order of their arrival; one release is kept when none
  is waiting.
-/
import FlowBench.Session.Request

namespace FlowBench

/-- A scripted answer. -/
inductive Response where
  | output (v : Value)
  | failure (message : String)
  /-- An output that waits for a release. -/
  | held (v : Value)

/-- What a call gets at once. -/
inductive Reply where
  | answer (result : Except Error Value)
  | wait (v : Value)

/-- A scripted executor. -/
structure Script where
  /-- The answers to come. -/
  responses : List Response := []
  /-- The requests so far. -/
  requests : List TestRequest := []
  /-- Whether a call came in since this was last asked. -/
  entered : Bool := false
  /-- The calls that wait for a release, by number, the earliest first. -/
  waiting : List Nat := []
  /-- The calls that have been released and did not run since. -/
  released : List Nat := []
  /-- Whether a release is kept. -/
  spare : Bool := false

namespace Script

/-- What the executor is called. -/
def executorName : String := "mock"

/-- What a call gets when the answers are used up. -/
def echo (r : TestRequest) : Value :=
  .object [("node_id", .str r.node), ("config", r.config.toValue)]

/-- A call, by number, with a request. -/
def call (s : Script) (number : Nat) (r : TestRequest) : Script × Reply :=
  let s' := { s with requests := s.requests ++ [r], entered := true, responses := s.responses.drop 1 }
  match s.responses with
  | [] => (s', .answer (.ok (echo r)))
  | .output v :: _ => (s', .answer (.ok v))
  | .failure message :: _ => (s', .answer (.error (.execution r.node message)))
  | .held v :: _ =>
      if s.spare then ({ s' with spare := false }, .answer (.ok v))
      else ({ s' with waiting := s'.waiting ++ [number] }, .wait v)

/-- Releases the call that has waited longest, or keeps the release; tells
which call it was. -/
def release (s : Script) : Script × Option Nat :=
  match s.waiting with
  | [] => ({ s with spare := true }, none)
  | n :: rest => ({ s with waiting := rest, released := s.released ++ [n] }, some n)

/-- Whether a call has been released. -/
def isReleased (s : Script) (number : Nat) : Bool := s.released.contains number

/-- Lets a released call go. -/
def leave (s : Script) (number : Nat) : Script :=
  { s with released := s.released.filter fun n => n ≠ number }

/-- Takes a call back that was cancelled.  Its release, if it has one, goes to
the next; tells which call that is. -/
def withdraw (s : Script) (number : Nat) : Script × Option Nat :=
  if s.isReleased number then (s.leave number).release
  else ({ s with waiting := s.waiting.filter fun n => n ≠ number }, none)

end Script

end FlowBench
