/-
  FlowBench.Proofs.Session.Fields
  ───────────────────────────────
  **What each operation of a session touches.**

  Field by field, for the operations that acts are made of.  Recording and
  warning touch the log and the warnings only; a test that ends touches the
  gate and the tests under way, and the store if its result counts.  Of the
  log only the kinds of its events matter here: `record`.
-/
import FlowBench.Proofs.Gate
import FlowBench.Session.Edit
import FlowBench.Session.Test

namespace FlowBench.Session

variable (s : Session)

/-! ## §1. Recording. -/

@[simp] theorem workflow_emit (k : EventKind) : (s.emit k).workflow = s.workflow := rfl
@[simp] theorem graph_emit (k : EventKind) : (s.emit k).graph = s.graph := rfl
@[simp] theorem store_emit (k : EventKind) : (s.emit k).store = s.store := rfl
@[simp] theorem gate_emit (k : EventKind) : (s.emit k).gate = s.gate := rfl
@[simp] theorem flights_emit (k : EventKind) : (s.emit k).flights = s.flights := rfl

@[simp] theorem workflow_warn (w : Warning) : (s.warn w).workflow = s.workflow := rfl
@[simp] theorem graph_warn (w : Warning) : (s.warn w).graph = s.graph := rfl
@[simp] theorem store_warn (w : Warning) : (s.warn w).store = s.store := rfl
@[simp] theorem gate_warn (w : Warning) : (s.warn w).gate = s.gate := rfl
@[simp] theorem flights_warn (w : Warning) : (s.warn w).flights = s.flights := rfl

/-! ## §2. Tests. -/

@[simp] theorem workflow_launch (g : Gate) (f : Flight) :
    (s.launch g f).workflow = s.workflow := rfl
@[simp] theorem graph_launch (g : Gate) (f : Flight) : (s.launch g f).graph = s.graph := rfl
@[simp] theorem store_launch (g : Gate) (f : Flight) : (s.launch g f).store = s.store := rfl
@[simp] theorem gate_launch (g : Gate) (f : Flight) : (s.launch g f).gate = g := rfl
@[simp] theorem flights_launch (g : Gate) (f : Flight) :
    (s.launch g f).flights = s.flights ++ [f] := rfl

@[simp] theorem permit_prepare (clock : String) (n : Node) (p : Permit) :
    (s.prepare clock n p).permit = p := rfl

@[simp] theorem workflow_land (f : Flight) : (s.land f).workflow = s.workflow := rfl
@[simp] theorem graph_land (f : Flight) : (s.land f).graph = s.graph := rfl
@[simp] theorem store_land (f : Flight) : (s.land f).store = s.store := rfl
@[simp] theorem gate_land (f : Flight) : (s.land f).gate = s.gate.release f.permit := rfl
@[simp] theorem flights_land (f : Flight) :
    (s.land f).flights = s.flights.filter fun g => g.permit.number ≠ f.permit.number := rfl

@[simp] theorem workflow_commit (f : Flight) (r : Except Error Value) (d : Nat) :
    (s.commit f r d).workflow = s.workflow := by cases r <;> rfl
@[simp] theorem graph_commit (f : Flight) (r : Except Error Value) (d : Nat) :
    (s.commit f r d).graph = s.graph := by cases r <;> rfl
@[simp] theorem gate_commit (f : Flight) (r : Except Error Value) (d : Nat) :
    (s.commit f r d).gate = s.gate := by cases r <;> rfl
@[simp] theorem flights_commit (f : Flight) (r : Except Error Value) (d : Nat) :
    (s.commit f r d).flights = s.flights := by cases r <;> rfl

@[simp] theorem workflow_abandon (f : Flight) : (s.abandon f).1.workflow = s.workflow := rfl
@[simp] theorem graph_abandon (f : Flight) : (s.abandon f).1.graph = s.graph := rfl
@[simp] theorem store_abandon (f : Flight) : (s.abandon f).1.store = s.store := rfl
@[simp] theorem gate_abandon (f : Flight) : (s.abandon f).1.gate = s.gate.release f.permit := rfl
@[simp] theorem flights_abandon (f : Flight) :
    (s.abandon f).1.flights = s.flights.filter fun g => g.permit.number ≠ f.permit.number := rfl

/-! ## §3. Edits. -/

@[simp] theorem workflow_replace (w : Workflow) : (s.replace w).workflow = w := rfl
@[simp] theorem graph_replace (w : Workflow) : (s.replace w).graph = .ofWorkflow w := rfl
@[simp] theorem store_replace (w : Workflow) : (s.replace w).store = s.store := rfl
@[simp] theorem gate_replace (w : Workflow) : (s.replace w).gate = s.gate := rfl
@[simp] theorem flights_replace (w : Workflow) : (s.replace w).flights = s.flights := rfl

/-! ## §4. The record. -/

/-- What happened so far, in order. -/
def record : List EventKind := s.log.events.map Event.kind

/-- What is recorded of a result that counts. -/
def resultEvent (id : String) (r : Except Error Value) (d : Nat) : EventKind :=
  match r with
  | .ok output => .testCompleted id output d
  | .error e => .testFailed id e.userMessage d

@[simp] theorem record_emit (k : EventKind) : (s.emit k).record = s.record ++ [k] := by
  unfold record emit EventLog.emit
  rw [List.map_append]
  rfl

theorem events_emitAll : ∀ (ks : List EventKind) (log : EventLog),
    (log.emitAll ks).events.map Event.kind = log.events.map Event.kind ++ ks
  | [], log => by simp [EventLog.emitAll]
  | k :: rest, log => by
    show ((log.emit k).emitAll rest).events.map Event.kind = _
    rw [events_emitAll rest (log.emit k)]
    simp [EventLog.emit]

@[simp] theorem record_warn (w : Warning) : (s.warn w).record = s.record := rfl

@[simp] theorem record_launch (g : Gate) (f : Flight) :
    (s.launch g f).record = s.record ++ startEvents f.permit.node f.context f.resolved :=
  events_emitAll _ s.log

@[simp] theorem record_land (f : Flight) : (s.land f).record = s.record := rfl

@[simp] theorem record_commit (f : Flight) (r : Except Error Value) (d : Nat) :
    (s.commit f r d).record = s.record ++ [resultEvent f.permit.node r d] := by
  cases r <;> exact record_emit _ _

@[simp] theorem record_abandon (f : Flight) :
    (s.abandon f).1.record = s.record ++ [.testCancelled f.permit.node] := record_emit _ _

@[simp] theorem record_replace (w : Workflow) : (s.replace w).record = s.record := rfl

end FlowBench.Session
