/-
  FlowBench.Proofs.Session.Soundness
  ──────────────────────────────────
  **A session never comes apart.**

  Workflow, graph, store and gate are changed by different acts.  `Sound`
  says what ties them together: the workflow is valid, the graph is its
  index, and whatever the store or the gate know of is one of its nodes.
  Every act keeps it.  The case that matters is a result that counts: it is
  written under a node that is running, which therefore was not removed.
-/
import FlowBench.Proofs.Graph.Index
import FlowBench.Proofs.Session.Permits
import FlowBench.Proofs.Store
import FlowBench.Proofs.Workflow.Edit

namespace FlowBench.Session

/-- The parts of a session agree. -/
structure Sound (s : Session) : Prop where
  valid : s.workflow.Valid
  indexed : s.graph = .ofWorkflow s.workflow
  stored : ∀ id, (s.store.get? id).isSome = true → s.workflow.Has id
  running : ∀ id number, s.gate.running.get? id = some number → s.workflow.Has id

variable {s s' : Session} {a : Act} {answer : Answer}

/-! ## §1. Opening. -/

theorem sound_ofWorkflow {w : Workflow} (h : w.Valid) : (ofWorkflow w).Sound where
  valid := h
  indexed := rfl
  stored := by
    intro id hid
    change ((Store.ofOutputs w.outputs).get? id).isSome = true at hid
    rw [Store.get?_ofOutputs, Option.isSome_map] at hid
    exact h.outputs id ((Table.mem_keys_iff w.outputs id).2 hid)
  running := by
    intro id number hrun
    cases hrun

/-! ## §2. Edits. -/

namespace Sound

/-- Recording changes none of the parts. -/
theorem emit (h : s.Sound) (k : EventKind) : (s.emit k).Sound :=
  ⟨h.valid, h.indexed, h.stored, h.running⟩

/-- A workflow with the same nodes or more takes the place of another. -/
theorem replace (h : s.Sound) {w : Workflow} (hvalid : w.Valid)
    (hkeep : ∀ id, s.workflow.Has id → w.Has id) : (s.replace w).Sound where
  valid := hvalid
  indexed := rfl
  stored id hid := hkeep id (h.stored id hid)
  running id number hrun := hkeep id (h.running id number hrun)

/-- A node goes with its test and with what is known of it. -/
theorem remove (h : s.Sound) {id : String} {w : Workflow} {n : Node}
    (hremove : s.workflow.removeNode id = .ok (w, n)) :
    ({ s.replace w with gate := (s.gate.cancel id).1, store := s.store.clear id }).Sound where
  valid := h.valid.removeNode hremove
  indexed := rfl
  stored := by
    intro k hk
    rw [Store.get?_clear] at hk
    split at hk
    · cases hk
    · next hne => exact Workflow.has_of_removeNode hremove hne (h.stored k hk)
  running := by
    intro k number hrun
    rw [Gate.get?_running_cancel] at hrun
    split at hrun
    · cases hrun
    · next hne => exact Workflow.has_of_removeNode hremove hne (h.running k number hrun)

/-! ## §3. Tests. -/

/-- Another gate may come in whose running tests are of existing nodes. -/
theorem regate (h : s.Sound) {g : Gate}
    (hrunning : ∀ id number, g.running.get? id = some number → s.workflow.Has id) :
    ({ s with gate := g }).Sound :=
  ⟨h.valid, h.indexed, h.stored, hrunning⟩

/-- Only existing nodes are found in the graph. -/
theorem has_of_node? (h : s.Sound) {id : String} {n : Node} (hn : s.graph.node? id = some n) :
    s.workflow.Has id := by
  rw [h.indexed, FlowGraph.node?_ofWorkflow h.valid.ids] at hn
  exact ⟨n, Workflow.mem_of_node?_eq_some hn⟩

theorem launch (h : s.Sound) {clock id : String} {n : Node} (hn : s.graph.node? id = some n) :
    (s.launch (s.gate.enter id) (s.prepare clock n ⟨id, s.gate.next⟩)).Sound where
  valid := h.valid
  indexed := h.indexed
  stored := h.stored
  running := by
    intro k number hrun
    rw [gate_launch, Gate.get?_running_enter] at hrun
    split at hrun
    · next heq =>
      rw [heq]
      exact h.has_of_node? hn
    · exact h.running k number hrun

/-- Giving a permit back brings no test in. -/
theorem land (h : s.Sound) (f : Flight) : (s.land f).Sound where
  valid := h.valid
  indexed := h.indexed
  stored := h.stored
  running := by
    intro k number hrun
    rw [gate_land, Gate.get?_running_release] at hrun
    split at hrun
    · cases hrun
    · exact h.running k number hrun

/-- **A result that counts is written under an existing node**, since the
permit of a removed one may not commit. -/
theorem commit (h : s.Sound) {f : Flight} (hm : s.gate.mayCommit f.permit = true)
    (r : Except Error Value) (d : Nat) : (s.commit f r d).Sound := by
  have hnode : s.workflow.Has f.permit.node := by
    obtain ⟨hrun, -⟩ := (s.gate.mayCommit_iff f.permit).1 hm
    exact h.running _ _ hrun
  refine ⟨?_, ?_, ?_, ?_⟩
  · rw [workflow_commit]
    exact h.valid
  · rw [graph_commit, workflow_commit]
    exact h.indexed
  · intro id hid
    rw [workflow_commit]
    by_cases heq : id = f.permit.node
    · rw [heq]
      exact hnode
    · -- other nodes keep what is known of them
      refine h.stored id ?_
      cases r with
      | ok v =>
        change ((s.store.succeed f.permit.node v d).get? id).isSome = true at hid
        rwa [Store.get?_succeed, if_neg heq] at hid
      | error e =>
        change ((s.store.fail f.permit.node e.userMessage d).get? id).isSome = true at hid
        rwa [Store.get?_fail, if_neg heq] at hid
  · rw [gate_commit, workflow_commit]
    exact h.running

end Sound

/-! ## §4. Along every run. -/

/-- Every act keeps a session sound. -/
theorem Step.sound (hs : Step s a s' answer) (h : s.Sound) : s'.Sound := by
  cases hs with
  | rejected => exact ⟨h.valid, h.indexed, h.stored, h.running⟩
  | stray | waiting | asking | idle | notAdded | notRenamed | notRemoved | notConnected => exact h
  | unknown hrun =>
    refine h.regate fun id number hid => h.running id number ?_
    rwa [Gate.get?_running_enter_release ((Gate.isRunning_eq_false_iff _ _).1 hrun)] at hid
  | started _ hn => exact h.launch hn
  | abandoned => exact (h.emit _).land _
  | settled _ hm => exact (h.commit hm _ _).land _
  | cancelled =>
    refine h.regate fun id number hid => ?_
    rw [Gate.get?_running_cancel] at hid
    split at hid
    · cases hid
    · exact h.running id number hid
  | added hadd =>
    refine (h.replace (h.valid.addNode hadd) fun id hid => ?_).emit _
    exact (Workflow.has_addNode_iff hadd).2 (.inl hid)
  | renamed hrename =>
    exact (h.replace (h.valid.renameNode hrename)
      fun _ => (Workflow.has_renameNode_iff hrename).2).emit _
  | removed hremove => exact (h.remove hremove).emit _
  | connected hadd =>
    have hreplace := h.replace (h.valid.addEdge hadd) fun _ => (Workflow.has_addEdge_iff hadd).2
    split
    · exact hreplace.emit _
    · exact hreplace

theorem sound_run {w : Workflow} (h : w.Valid) (acts : List Act) :
    ((ofWorkflow w).run acts).Sound :=
  run_keeps Step.sound acts (sound_ofWorkflow h)

/-- The snapshot of a sound session is valid. -/
theorem Sound.valid_snapshot (h : s.Sound) : s.snapshot.Valid := by
  refine { h.valid with outputs := ?_ }
  intro id hid
  rw [Table.mem_keys_iff] at hid
  change (s.store.outputs.get? id).isSome = true at hid
  rw [Store.get?_outputs] at hid
  unfold Store.output? at hid
  refine h.stored id ?_
  cases hget : s.store.get? id with
  | none =>
    rw [hget] at hid
    cases hid
  | some st => rfl

/-- **Whatever happens to a session that was opened on a valid workflow, its
parts agree.**  The workflow still passes the check, the graph is the index
of the workflow, the store and the gate know of existing nodes only, and so
the snapshot can be opened again. -/
theorem parts_agree_along_every_run (w : Workflow) (h : w.validate = .ok ()) (acts : List Act) :
    let s := (ofWorkflow w).run acts
    s.workflow.validate = .ok () ∧
      s.graph = .ofWorkflow s.workflow ∧
      (∀ id ∈ s.store.states.keys, (s.workflow.node? id).isSome = true) ∧
      (∀ id, s.gate.isRunning id = true → s.graph.contains id = true) ∧
      (∀ id ∈ s.gate.runningNodes, s.graph.contains id = true) ∧
      s.snapshot.validate = .ok () := by
  intro s
  have hs : s.Sound := sound_run ((Workflow.validate_eq_ok_iff w).1 h) acts
  have hrunning : ∀ id, s.gate.isRunning id = true → s.graph.contains id = true := by
    intro id hid
    obtain ⟨number, hrun⟩ := Option.isSome_iff_exists.1 hid
    rw [hs.indexed, FlowGraph.contains_ofWorkflow_iff hs.valid.ids]
    exact hs.running id number hrun
  refine ⟨(Workflow.validate_eq_ok_iff _).2 hs.valid, hs.indexed, ?_, hrunning, ?_, ?_⟩
  · intro id hid
    rw [Workflow.isSome_node?_iff]
    exact hs.stored id ((Table.mem_keys_iff _ _).1 hid)
  · intro id hid
    exact hrunning id ((Table.mem_keys_iff _ _).1 hid)
  · exact (Workflow.validate_eq_ok_iff _).2 hs.valid_snapshot

/-- A node is tested, removed while its test runs, and the test comes to a
value afterwards. -/
theorem parts_agree_after_removal :
    let w : Workflow := { nodes := [⟨"n", "N", .manual⟩] }
    let s := (ofWorkflow w).run
      [.test "" "n", .removeNode "n", .resume 0 (.result (.ok (.bool true))) 7]
    w.validate = .ok () ∧ s.snapshot.validate = .ok () := by
  intro w s
  have h : w.validate = .ok () := by decide
  exact ⟨h, (parts_agree_along_every_run w h _).2.2.2.2.2⟩

end FlowBench.Session
