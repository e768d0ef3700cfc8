/-
  FlowBench.Session.Test
  ──────────────────────
  **Testing a node.**

  A test is admitted, runs outside, and is finished.  What it works on is
  taken down when it is admitted; edits in between do not change it.  It may
  be cancelled in between; then it leaves nothing behind, whatever the
  executor says later.
-/
import FlowBench.Session.Request

namespace FlowBench.Session

/-! ## §1. Admission. -/

/-- The warning that an edge into a node deserves, if any: its source has an
output, which is not on the branch or not from the latest test. -/
def warningOf? (s : Session) (id : String) (e : Edge) : Option Warning :=
  if (s.store.output? e.source).isNone then none
  else if !s.graph.isLive s.store e then some (.inactiveParent id e.source e.id)
  else if s.store.isStale e.source then some (.staleParent id e.source)
  else none

/-- The warnings that the edges into a node deserve. -/
def warningsAt (s : Session) (id : String) : List Warning :=
  (s.graph.parents id).filterMap (s.warningOf? id)

/-- The events that tell what a test starts with. -/
def startEvents (id : String) (u : Context) (r : ResolvedConfig) : List EventKind :=
  .testStarted id u.toValue
    :: r.fields.map fun f => .templateResolved id f.field f.template f.result

/-- What a test of a node works on, under its permit. -/
def prepare (clock : String) (s : Session) (n : Node) (p : Permit) : Flight :=
  let u := s.graph.collect s.store p.node
  ⟨p, n, u, n.config.resolve clock u⟩

/-- Sends a test off that was admitted. -/
def launch (s : Session) (gate : Gate) (f : Flight) : Session :=
  let id := f.permit.node
  let s := (s.warnAll (s.warningsAt id)).emitAll (startEvents id f.context f.resolved)
  { s with gate := gate, flights := s.flights ++ [f] }

/-- Starts a test.  It is rejected while another test of the node runs.  For
a node that does not exist the permit is given back at once. -/
def start (clock : String) (s : Session) (id : String) : Session × Except Error Flight :=
  match s.gate.acquire id with
  | .error e => ((s.warn (.rejected id)).emit (.testRejected id), .error e)
  | .ok (gate, permit) =>
      match s.graph.node? id with
      | none => ({ s with gate := gate.release permit }, .error (.nodeNotFound id))
      | some n =>
          let f := s.prepare clock n permit
          (s.launch gate f, .ok f)

/-! ## §2. The end. -/

/-- Cancels the running test of a node; tells whether there was one. -/
def cancel (s : Session) (id : String) : Session × Bool :=
  let (gate, found) := s.gate.cancel id
  ({ s with gate := gate }, found)

/-- Takes a test out of those under way and gives its permit back. -/
def land (s : Session) (f : Flight) : Session :=
  { s with
    gate := s.gate.release f.permit
    flights := s.flights.filter fun g => g.permit.number ≠ f.permit.number }

/-- Keeps the result of a test. -/
def commit (s : Session) (f : Flight) (result : Except Error Value) (duration : Nat) : Session :=
  let id := f.permit.node
  match result with
  | .ok output =>
      { s with store := s.store.succeed id output duration }.emit
        (.testCompleted id output duration)
  | .error e =>
      let s := { s with store := s.store.fail id e.userMessage duration }
      (s.warn (.failed id e (s.store.output? id).isSome)).emit (.testFailed id e.userMessage duration)

/-- Ends a test that was cancelled. -/
def abandon (s : Session) (f : Flight) : Session × Except Error Value :=
  ((s.emit (.testCancelled f.permit.node)).land f, .error (.testCancelled f.permit.node))

/-- Finishes a test with the executor's result, which counts unless the test
was cancelled. -/
def finish (s : Session) (f : Flight) (result : Except Error Value) (duration : Nat) :
    Session × Except Error Value :=
  if s.gate.mayCommit f.permit then ((s.commit f result duration).land f, result)
  else s.abandon f

/-! ## §3. In between. -/

/-- What a test that waits is woken with. -/
inductive Arrival where
  /-- Nothing, unless its signal has fired. -/
  | nothing
  /-- What a source says of the credentials that the test may ask for. -/
  | credentials (source : String → Except Error Value)
  /-- The executor's result. -/
  | result (r : Except Error Value)

/-- How far a test comes when it is woken. -/
inductive Progress where
  | waits
  /-- It calls the executor. -/
  | asks (r : TestRequest)
  | returns (result : Except Error Value)

/-- Wakes a test.  Its signal is looked at before anything that arrived. -/
def resume (s : Session) (f : Flight) (a : Arrival) (duration : Nat) : Session × Progress :=
  let ends (r : Session × Except Error Value) : Session × Progress := (r.1, .returns r.2)
  if s.gate.isCancelled f.permit then ends (s.abandon f)
  else
    match a with
    | .nothing => (s, .waits)
    | .credentials source =>
        match f.credentials source with
        | .ok c => (s, .asks (f.request c))
        | .error e => ends (s.finish f (.error e) duration)
    | .result r => ends (s.finish f r duration)

end FlowBench.Session
