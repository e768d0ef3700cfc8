/-
  FlowBench.Proofs.Session.Act
  ────────────────────────────
  **What can happen to a session.**

  A session is edited, its nodes are tested, and its tests are cancelled and
  woken, in any order.  `perform` takes the session through one such act by
  the function that the act stands for, `run` through many.  A test that is
  under way may be woken at any time and with anything, so that every order
  in which executors and sources of credentials may answer is a list of acts.

  An act is whole.  A test that ends changes the store, the record and the
  gate one after the other, and so does the removal of a node; here nothing
  else comes between these parts.  Sessions that several threads share are
  taken to keep to that, so that every run is an order of whole acts.  Tests
  suspend between acts and nowhere else.

  `Step` says case by case what one act does, guards included; whatever is
  proved of all runs goes by cases on it.
-/
import FlowBench.Proofs.Session.Fields

namespace FlowBench

/-! ## §1. Acts and their answers. -/

/-- What can happen to a session. -/
inductive Act where
  /-- A test of a node is asked for, at a reading of the clock. -/
  | test (clock node : String)
  /-- The test under way with a number is woken after some time. -/
  | resume (number : Nat) (a : Session.Arrival) (duration : Nat)
  | cancel (node : String)
  | addNode (id : String) (name : Option String) (config : NodeConfig)
  | renameNode (id name : String)
  | removeNode (id : String)
  | addEdge (e : Edge)

/-- What an act gives back. -/
inductive Answer where
  | tested (r : Except Error Flight)
  | resumed (p : Session.Progress)
  /-- No test under way has the number. -/
  | stray
  | cancelled (found : Bool)
  | added (r : Except Error Node)
  | renamed (r : Except Error String)
  | removed (r : Except Error Unit)
  | connected (r : Except Error Bool)

/-- The result that a test comes to with what arrived, if it comes to one. -/
def Flight.outcome? (f : Flight) : Session.Arrival → Option (Except Error Value)
  | .nothing => none
  | .credentials source =>
      match f.credentials source with
      | .ok _ => none
      | .error e => some (.error e)
  | .result r => some r

/-- One act of a run: the session before and after it, and what it gave. -/
structure Moment where
  before : Session
  act : Act
  after : Session
  answer : Answer

namespace Session

/-- The test under way with a number. -/
def flight? (s : Session) (number : Nat) : Option Flight :=
  s.flights.find? fun f => f.permit.number = number

/-- The session after an edit, which one that fails leaves as it was. -/
def edited {α : Type} (s : Session) (r : Except Error (Session × α))
    (answer : Except Error α → Answer) : Session × Answer :=
  match r with
  | .ok (s', a) => (s', answer (.ok a))
  | .error e => (s, answer (.error e))

/-- Performs an act. -/
def perform (s : Session) : Act → Session × Answer
  | .test clock id =>
      let (s', r) := s.start clock id
      (s', .tested r)
  | .resume number a duration =>
      match s.flight? number with
      | none => (s, .stray)
      | some f =>
          let (s', p) := s.resume f a duration
          (s', .resumed p)
  | .cancel id =>
      let (s', found) := s.cancel id
      (s', .cancelled found)
  | .addNode id name config => s.edited (s.addNode id name config) .added
  | .renameNode id name => s.edited (s.renameNode id name) .renamed
  | .removeNode id => s.edited ((s.removeNode id).map fun s' => (s', ())) .removed
  | .addEdge e => s.edited (s.addEdge e) .connected

/-- Performs acts in turn. -/
def run : Session → List Act → Session
  | s, [] => s
  | s, a :: rest => (s.perform a).1.run rest

/-- The moment of an act. -/
def moment (s : Session) (a : Act) : Moment := ⟨s, a, (s.perform a).1, (s.perform a).2⟩

/-- The moments of a run, in order. -/
def moments : Session → List Act → List Moment
  | _, [] => []
  | s, a :: rest => s.moment a :: (s.perform a).1.moments rest

theorem run_append (s : Session) (acts more : List Act) :
    s.run (acts ++ more) = (s.run acts).run more := by
  induction acts generalizing s with
  | nil => rfl
  | cons a rest ih =>
    show (s.perform a).1.run (rest ++ more) = _
    rw [ih]
    rfl

theorem moments_append (s : Session) (acts more : List Act) :
    s.moments (acts ++ more) = s.moments acts ++ (s.run acts).moments more := by
  induction acts generalizing s with
  | nil => rfl
  | cons a rest ih =>
    show s.moment a :: (s.perform a).1.moments (rest ++ more) = _
    rw [ih]
    rfl

/-! ## §2. What one act does. -/

/-- What an act does to a session and gives back, case by case. -/
inductive Step (s : Session) : Act → Session → Answer → Prop where
  /-- A test of the node runs. -/
  | rejected {clock id : String} (h : s.gate.isRunning id = true) :
      Step s (.test clock id) ((s.warn (.rejected id)).emit (.testRejected id))
        (.tested (.error (.testInProgress id)))
  | unknown {clock id : String} (h : s.gate.isRunning id = false) (hn : s.graph.node? id = none) :
      Step s (.test clock id) { s with gate := (s.gate.enter id).release ⟨id, s.gate.next⟩ }
        (.tested (.error (.nodeNotFound id)))
  | started {clock id : String} {n : Node} (h : s.gate.isRunning id = false)
      (hn : s.graph.node? id = some n) :
      Step s (.test clock id) (s.launch (s.gate.enter id) (s.prepare clock n ⟨id, s.gate.next⟩))
        (.tested (.ok (s.prepare clock n ⟨id, s.gate.next⟩)))
  | stray {number duration : Nat} {a : Arrival} (h : s.flight? number = none) :
      Step s (.resume number a duration) s .stray
  /-- The test was cancelled. -/
  | abandoned {number duration : Nat} {a : Arrival} {f : Flight}
      (hf : s.flight? number = some f) (hm : s.gate.mayCommit f.permit = false) :
      Step s (.resume number a duration) (s.abandon f).1
        (.resumed (.returns (.error (.testCancelled f.permit.node))))
  | waiting {number duration : Nat} {f : Flight} (hf : s.flight? number = some f)
      (hc : s.gate.isCancelled f.permit = false) :
      Step s (.resume number .nothing duration) s (.resumed .waits)
  | asking {number duration : Nat} {source : String → Except Error Value} {f : Flight}
      {c : Option Value} (hf : s.flight? number = some f)
      (hc : s.gate.isCancelled f.permit = false) (h : f.credentials source = .ok c) :
      Step s (.resume number (.credentials source) duration) s (.resumed (.asks (f.request c)))
  /-- The test comes to a result, which counts. -/
  | settled {number duration : Nat} {a : Arrival} {f : Flight} {r : Except Error Value}
      (hf : s.flight? number = some f) (hm : s.gate.mayCommit f.permit = true)
      (hr : f.outcome? a = some r) :
      Step s (.resume number a duration) ((s.commit f r duration).land f) (.resumed (.returns r))
  | cancelled {id : String} {number : Nat} (h : s.gate.running.get? id = some number) :
      Step s (.cancel id) { s with gate := (s.gate.cancel id).1 } (.cancelled true)
  /-- There was nothing to cancel. -/
  | idle {id : String} (h : s.gate.running.get? id = none) :
      Step s (.cancel id) s (.cancelled false)
  | added {id : String} {name : Option String} {config : NodeConfig} {w : Workflow} {n : Node}
      (h : s.workflow.addNode id name config = .ok (w, n)) :
      Step s (.addNode id name config) ((s.replace w).emit (.nodeAdded id n.name)) (.added (.ok n))
  | renamed {id name after : String} {w : Workflow}
      (h : s.workflow.renameNode id name = .ok (w, after)) :
      Step s (.renameNode id name)
        ((s.replace w).emit
          (.nodeRenamed id (((s.workflow.node? id).map Node.name).getD "") after))
        (.renamed (.ok after))
  | removed {id : String} {w : Workflow} {n : Node} (h : s.workflow.removeNode id = .ok (w, n)) :
      Step s (.removeNode id)
        (emit { s.replace w with gate := (s.gate.cancel id).1, store := s.store.clear id }
          (.nodeRemoved id))
        (.removed (.ok ()))
  | connected {e : Edge} {w : Workflow} {new : Bool} (h : s.workflow.addEdge e = .ok (w, new)) :
      Step s (.addEdge e) (if new then (s.replace w).emit (.edgeAdded e.id) else s.replace w)
        (.connected (.ok new))
  | notAdded {id : String} {name : Option String} {config : NodeConfig} {e : Error}
      (h : s.workflow.addNode id name config = .error e) :
      Step s (.addNode id name config) s (.added (.error e))
  | notRenamed {id name : String} {e : Error} (h : s.workflow.renameNode id name = .error e) :
      Step s (.renameNode id name) s (.renamed (.error e))
  | notRemoved {id : String} {e : Error} (h : s.workflow.removeNode id = .error e) :
      Step s (.removeNode id) s (.removed (.error e))
  | notConnected {edge : Edge} {e : Error} (h : s.workflow.addEdge edge = .error e) :
      Step s (.addEdge edge) s (.connected (.error e))

/-- A test asked for takes one of three ways. -/
theorem step_test (s : Session) (clock id : String) :
    Step s (.test clock id) (s.perform (.test clock id)).1 (s.perform (.test clock id)).2 := by
  simp only [perform, start, Gate.acquire]
  cases hrun : s.gate.isRunning id with
  | true => exact .rejected hrun
  | false =>
    cases hnode : s.graph.node? id with
    | none => simpa only [hnode] using .unknown hrun hnode
    | some n => simpa only [hnode] using .started hrun hnode

/-- A result that arrives counts unless the test was cancelled. -/
theorem step_finish {s : Session} {number duration : Nat} {a : Arrival} {f : Flight}
    {r : Except Error Value} (hf : s.flight? number = some f) (hr : f.outcome? a = some r) :
    Step s (.resume number a duration) (s.finish f r duration).1
      (.resumed (.returns (s.finish f r duration).2)) := by
  unfold finish
  cases hm : s.gate.mayCommit f.permit with
  | true => exact .settled hf hm hr
  | false => exact .abandoned hf hm

theorem step_resume (s : Session) (number : Nat) (a : Arrival) (duration : Nat) :
    Step s (.resume number a duration) (s.perform (.resume number a duration)).1
      (s.perform (.resume number a duration)).2 := by
  cases hf : s.flight? number with
  | none =>
    simp only [perform, hf]
    exact .stray hf
  | some f =>
    simp only [perform, hf]
    unfold resume
    cases hc : s.gate.isCancelled f.permit with
    | true => exact .abandoned hf (Gate.mayCommit_eq_false_of_isCancelled hc)
    | false =>
      cases a with
      | nothing => exact .waiting hf hc
      | result r => exact step_finish hf rfl
      | credentials source =>
        cases hcred : f.credentials source with
        | ok c => simpa [hcred] using .asking hf hc hcred
        | error e =>
          have hr : f.outcome? (.credentials source) = some (.error e) := by
            simp [Flight.outcome?, hcred]
          simpa [hcred] using step_finish hf hr

theorem step_cancel (s : Session) (id : String) :
    Step s (.cancel id) (s.perform (.cancel id)).1 (s.perform (.cancel id)).2 := by
  cases hrun : s.gate.running.get? id with
  | none =>
    have hsame : s.gate.cancel id = (s.gate, false) := by simp only [Gate.cancel, hrun]
    simp only [perform, cancel, hsame]
    exact .idle hrun
  | some number =>
    have hfound : (s.gate.cancel id).2 = true := by simp only [Gate.cancel, hrun]
    simp only [perform, cancel, hfound]
    exact .cancelled hrun

/-- **What `perform` does is a step.** -/
theorem step_perform (s : Session) (a : Act) : Step s a (s.perform a).1 (s.perform a).2 := by
  cases a with
  | test clock id => exact step_test s clock id
  | resume number a duration => exact step_resume s number a duration
  | cancel id => exact step_cancel s id
  | addNode id name config =>
    cases h : s.workflow.addNode id name config with
    | error e => simpa only [perform, addNode, h] using .notAdded h
    | ok p => simpa only [perform, addNode, h] using .added h
  | renameNode id name =>
    cases h : s.workflow.renameNode id name with
    | error e => simpa only [perform, renameNode, h] using .notRenamed h
    | ok p => simpa only [perform, renameNode, h] using .renamed h
  | removeNode id =>
    cases h : s.workflow.removeNode id with
    | error e => simpa only [perform, removeNode, h] using .notRemoved h
    | ok p => simpa only [perform, removeNode, h] using .removed h
  | addEdge e =>
    cases h : s.workflow.addEdge e with
    | error e => simpa only [perform, addEdge, h] using .notConnected h
    | ok p => simpa only [perform, addEdge, h] using .connected h

theorem step_of_perform {s s' : Session} {a : Act} {answer : Answer}
    (h : s.perform a = (s', answer)) : Step s a s' answer := by
  have hs := step_perform s a
  rwa [h] at hs

/-! ## §3. What holds of every run. -/

/-- What every step keeps, every run keeps. -/
theorem run_keeps {P : Session → Prop}
    (keep : ∀ {s a s' answer}, Step s a s' answer → P s → P s') :
    ∀ (acts : List Act) {s : Session}, P s → P (s.run acts)
  | [], _, h => h
  | a :: rest, s, h => run_keeps keep rest (keep (step_perform s a) h)

end Session

end FlowBench
