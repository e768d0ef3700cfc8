/-
  FlowBench.Event.Log
  ───────────────────
  **The log of a session.**

  Events in the order they happened, numbered from zero.  Nothing is ever
  taken out.  When an event happened is not kept: the time stamp of an event
  is shown with it, but nothing reads it, and the order is that of the
  numbers.  The numbers have no bound here; a counter of 64 bits gives the
  same to the first 2^64 events.
-/
import FlowBench.Event.Kind

namespace FlowBench

/-- A numbered event. -/
structure Event where
  id : Nat
  kind : EventKind
  deriving Inhabited

/-- The events so far. -/
structure EventLog where
  events : List Event := []
  deriving Inhabited

namespace EventLog

/-- Adds an event; it gets the next number. -/
def emit (log : EventLog) (kind : EventKind) : EventLog :=
  ⟨log.events ++ [⟨log.events.length, kind⟩]⟩

/-- Adds several events. -/
def emitAll (log : EventLog) (kinds : List EventKind) : EventLog := kinds.foldl emit log

/-- The events about a node. -/
def about (log : EventLog) (node : String) : List Event :=
  log.events.filter fun e => e.kind.node? = some node

/-- What a log is shown as. -/
def describe (log : EventLog) : String :=
  "EventLog \x7b len: " ++ toString log.events.length ++ " \x7d"

end EventLog

end FlowBench
