/-
  FlowBench.Proofs.Session.Reopening
  ──────────────────────────────────
  **A snapshot, opened again, shows the same.**

  A snapshot keeps the outputs of a session and drops the rest of its store.
  What a node sees is collected from the outputs alone, so nothing of it
  changes.  Which way data flows also hangs on the errors: a node whose latest
  test failed while it held an output keeps its data back in the session, and
  lets it go in the session that is opened on the snapshot.  Nowhere else do
  the two differ.
-/
import FlowBench.Proofs.Branch
import FlowBench.Proofs.Graph.Collect
import FlowBench.Proofs.Session.Replay

namespace FlowBench

/-! ## §1. What was told last of a node. -/

namespace EventKind

/-- The event changes what is told of the tests of a node: a result of one,
or that the node is removed. -/
def Settles (id : String) : EventKind → Prop
  | .testCompleted node _ _ => node = id
  | .testFailed node _ _ => node = id
  | .nodeRemoved node => node = id
  | _ => False

variable {id : String}

/-- Other events leave it as it is. -/
theorem get?_replayState {k : EventKind} (h : ¬ k.Settles id) (t : Table Trace) :
    (replayState t k).get? id = t.get? id := by
  cases k with
  | testCompleted node output d =>
    show (t.insert node _).get? id = _
    rw [Table.get?_insert, if_neg fun heq => h heq.symm]
  | testFailed node error d =>
    show (t.insert node _).get? id = _
    rw [Table.get?_insert, if_neg fun heq => h heq.symm]
  | nodeRemoved node =>
    show (t.erase node).get? id = _
    rw [Table.get?_erase, if_neg fun heq => h heq.symm]
  | _ => rfl

/-- An event after which an error is told is the failure that it tells of. -/
theorem eq_testFailed_of_settles {k : EventKind} (h : k.Settles id) {t : Table Trace}
    {error : String} (herror : ((replayState t k).get? id).bind Trace.error = some error) :
    ∃ d, k = .testFailed id error d := by
  cases k with
  | testCompleted node output d =>
    cases (show node = id from h)
    simp [replayState] at herror
  | testFailed node message d =>
    cases (show node = id from h)
    simp only [replayState, Table.get?_insert, if_pos, Option.bind_some, Option.some.injEq] at herror
    exact ⟨d, by rw [herror]⟩
  | nodeRemoved node =>
    cases (show node = id from h)
    simp [replayState] at herror
  | _ => cases h

/-- An error that is told was there before, or some failure told it and no
event since has settled the node. -/
theorem error_foldl_replayState {error : String} : ∀ (ks : List EventKind) (t : Table Trace),
    ((ks.foldl replayState t).get? id).bind Trace.error = some error →
      ((t.get? id).bind Trace.error = some error ∧ ∀ k ∈ ks, ¬ k.Settles id) ∨
        ∃ before d after, ks = before ++ .testFailed id error d :: after ∧
          ∀ k ∈ after, ¬ k.Settles id
  | [], t, h => .inl ⟨h, by simp⟩
  | k :: rest, t, h => by
    rcases error_foldl_replayState rest (replayState t k) h with ⟨hthere, hquiet⟩ | hfailed
    · by_cases hk : k.Settles id
      · obtain ⟨d, rfl⟩ := eq_testFailed_of_settles hk hthere
        exact .inr ⟨[], d, rest, rfl, hquiet⟩
      · rw [get?_replayState hk] at hthere
        exact .inl ⟨hthere, List.forall_mem_cons.2 ⟨hk, hquiet⟩⟩
    · obtain ⟨before, d, after, rfl, hquiet⟩ := hfailed
      exact .inr ⟨k :: before, d, after, rfl, hquiet⟩

end EventKind

namespace Session

variable {w : Workflow} {s : Session} {id : String} {e : Edge}

/-- A node with an error has a latest result, which is a failure. -/
theorem Told.latest_failed (h : Told w s) {error : TestError}
    (herror : s.store.error? id = some error) :
    ∃ before d after, s.record = before ++ .testFailed id error.message d :: after ∧
      ∀ k ∈ after, ¬ k.Settles id := by
  obtain ⟨st, hst, hsterr⟩ := Option.bind_eq_some_iff.1 herror
  have htold : ((s.record.foldl EventKind.replayState w.traces).get? id).bind Trace.error =
      some error.message := by
    rw [h.states, hst]
    show st.error.map TestError.message = _
    rw [hsterr]
    rfl
  rcases EventKind.error_foldl_replayState _ _ htold with ⟨hthere, -⟩ | hfailed
  · -- a workflow starts with outputs only
    unfold Workflow.traces at hthere
    rw [Table.get?_mapWithKey] at hthere
    cases hout : w.outputs.get? id <;> simp [hout] at hthere
  · exact hfailed

/-! ## §2. The session on the snapshot. -/

/-- The session that is opened on the snapshot of another. -/
def reopened (s : Session) : Session := ofWorkflow s.snapshot

/-- An output stands alone in the store of the new session. -/
theorem get?_reopened (s : Session) (id : String) :
    s.reopened.store.get? id = (s.store.output? id).map fun v => { output := some v } := by
  rw [← Store.get?_outputs]
  exact Store.get?_ofOutputs id s.store.outputs

theorem output?_reopened (s : Session) (id : String) :
    s.reopened.store.output? id = s.store.output? id := by
  unfold Store.output?
  rw [get?_reopened]
  unfold Store.output?
  cases (s.store.get? id).bind NodeState.output <;> rfl

theorem isStale_reopened (s : Session) (id : String) : s.reopened.store.isStale id = false := by
  unfold Store.isStale
  rw [get?_reopened]
  cases s.store.output? id <;> rfl

/-- The graph does not look at the outputs. -/
theorem graph_reopened (h : s.Sound) : s.reopened.graph = s.graph := by
  rw [h.indexed]
  rfl

/-- A node sees the same. -/
theorem collect_reopened (h : s.Sound) (id : String) :
    s.reopened.graph.collect s.reopened.store id = s.graph.collect s.store id := by
  rw [graph_reopened h]
  exact s.graph.collect_congr (output?_reopened s) id

theorem node_reopened (h : s.Sound) (id : String) : s.reopened.node id = s.node id := by
  unfold node
  rw [graph_reopened h]

/-- Where the source is not stale, data flows as before. -/
theorem isLive_reopened (h : s.Sound) (hstale : s.store.isStale e.source = false) :
    s.reopened.graph.isLive s.reopened.store e = s.graph.isLive s.store e := by
  rw [graph_reopened h]
  cases hout : s.store.output? e.source with
  | none =>
    rw [FlowGraph.isLive_of_no_output hout,
      FlowGraph.isLive_of_no_output ((output?_reopened s _).trans hout)]
  | some v =>
    cases hn : s.graph.node? e.source with
    | none => simp only [FlowGraph.isLive, hn]
    | some n =>
      rw [FlowGraph.isLive_of_output hn hout hstale,
        FlowGraph.isLive_of_output hn ((output?_reopened s _).trans hout) (isStale_reopened s _)]

theorem mem_liveEdges_iff : e ∈ s.liveEdges ↔ e ∈ s.graph.edges ∧ s.graph.isLive s.store e = true :=
  List.mem_filter

/-- What is stale is an output of a node with an error. -/
theorem exists_error_of_isStale (h : s.store.isStale id = true) :
    (s.store.output? id).isSome = true ∧ ∃ error, s.store.error? id = some error := by
  unfold Store.isStale at h
  cases hst : s.store.get? id with
  | none =>
    rw [hst] at h
    cases h
  | some st =>
    rw [hst] at h
    obtain ⟨hout, herror⟩ := Bool.and_eq_true_iff.1 (show st.isStale = true from h)
    unfold Store.output? Store.error?
    rw [hst]
    exact ⟨hout, Option.isSome_iff_exists.1 herror⟩

/-! ## §3. The theorem. -/

/-- **A snapshot that is opened again shows the same.**  The snapshot is
valid; the new session has the same nodes and edges in the same order; what a
node sees, its configuration and any text resolve alike.  Every edge that is
live stays live.  An edge that becomes live leaves a node that holds an
output though its latest test failed: the latest event that settles the node
is that failure. -/
theorem reopening_shows_the_same (w : Workflow) (h : w.validate = .ok ()) (acts : List Act) :
    let s := (ofWorkflow w).run acts
    let t := ofWorkflow s.snapshot
    s.snapshot.validate = .ok () ∧ t.nodes = s.nodes ∧ t.workflow.edges = s.workflow.edges ∧
      t.graph.edges = s.graph.edges ∧
      (∀ id, t.context id = s.context id) ∧
      (∀ clock id, t.resolve clock id = s.resolve clock id) ∧
      (∀ clock id text, t.resolveText clock id text = s.resolveText clock id text) ∧
      (∀ e ∈ s.liveEdges, e ∈ t.liveEdges) ∧
      ∀ e ∈ t.liveEdges, e ∉ s.liveEdges →
        (s.store.output? e.source).isSome = true ∧
          ∃ error, s.store.error? e.source = some error ∧
            ∃ before d after, s.record = before ++ .testFailed e.source error.message d :: after ∧
              ∀ k ∈ after, ¬ k.Settles e.source := by
  intro s t
  have hs : s.Sound := sound_run ((Workflow.validate_eq_ok_iff w).1 h) acts
  have hgraph : t.graph = s.graph := graph_reopened hs
  have hedges : t.graph.edges = s.graph.edges := by rw [hgraph]
  have hcontext : ∀ id, t.context id = s.context id := by
    intro id
    show (t.node id).map _ = (s.node id).map _
    rw [show t.node id = s.node id from node_reopened hs id]
    exact congrArg (fun u => (s.node id).map fun _ => u) (collect_reopened hs id)
  refine ⟨(Workflow.validate_eq_ok_iff _).2 hs.valid_snapshot, ?_, rfl, hedges, hcontext, ?_, ?_, ?_,
    ?_⟩
  · show t.graph.nodes = s.graph.nodes
    rw [hgraph]
  · intro clock id
    show (t.node id).map _ = (s.node id).map _
    rw [show t.node id = s.node id from node_reopened hs id]
    exact congrArg (fun u => (s.node id).map fun n => n.config.resolve clock u)
      (collect_reopened hs id)
  · intro clock id text
    unfold resolveText
    rw [hcontext]
  · intro e he
    rw [mem_liveEdges_iff] at he ⊢
    cases hstale : s.store.isStale e.source with
    | true =>
      rw [FlowGraph.isLive_of_isStale hstale] at he
      cases he.2
    | false =>
      rw [hedges]
      exact ⟨he.1, (isLive_reopened hs hstale).trans he.2⟩
  · intro e he hnot
    rw [mem_liveEdges_iff] at he hnot
    cases hstale : s.store.isStale e.source with
    | true =>
      obtain ⟨hout, error, herror⟩ := exists_error_of_isStale hstale
      exact ⟨hout, error, herror, (told_run w acts).latest_failed herror⟩
    | false =>
      rw [hedges] at he
      exact absurd ⟨he.1, (isLive_reopened hs hstale).symm.trans he.2⟩ hnot

/-- A node comes to a value, is removed and added again, comes to another
value, is renamed and fails: the edge behind it is live in the new session
only. -/
theorem edge_behind_failure_is_live_again :
    let w : Workflow :=
      { nodes := [⟨"a", "A", .manual⟩, ⟨"b", "B", .set { fields := Table.ofList [("f", "{{ M }}")] }⟩] }
    let acts : List Act :=
      [.test "" "a", .resume 0 (.result (.ok (.bool true))) 7, .removeNode "a",
        .addNode "a" none .manual, .addEdge (.connect "a" "b" none), .test "" "a",
        .resume 1 (.result (.ok (.int 5))) 7, .renameNode "a" "M", .test "" "a",
        .resume 2 (.result (.error (.execution "a" "boom"))) 7]
    let s := (ofWorkflow w).run acts
    let t := ofWorkflow s.snapshot
    let e : Edge := .connect "a" "b" none
    w.validate = .ok () ∧ e ∈ t.liveEdges ∧ e ∉ s.liveEdges ∧
      t.resolveText "" "b" "{{ M }}" = s.resolveText "" "b" "{{ M }}" ∧
      (s.store.output? "a").isSome = true := by
  intro w acts s t e
  have h : w.validate = .ok () := by decide +kernel
  have ht : e ∈ t.liveEdges := by decide +kernel
  have hs : e ∉ s.liveEdges := by decide +kernel
  obtain ⟨-, -, -, -, -, -, htext, -, hnew⟩ := reopening_shows_the_same w h acts
  exact ⟨h, ht, hs, htext "" "b" "{{ M }}", (hnew e ht hs).1⟩

end Session

end FlowBench
