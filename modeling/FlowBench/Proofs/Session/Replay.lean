/-
  FlowBench.Proofs.Session.Replay
  ───────────────────────────────
  **The record tells what became of the session.**

  Store and nodes are changed by the acts; the record only tells of it, event
  by event, sometimes after the fact.  Whoever has the workflow that a session
  was opened on and the record can replay both: the output and the error of
  every node (`replayState`), and the nodes with their names
  (`replayNode`).  `Told` says that the replay comes to what the session
  holds; every act keeps it.
-/
import FlowBench.Proofs.Session.Soundness

namespace FlowBench

/-! ## §1. Replaying. -/

/-- What a record tells of the tests of a node: the output of the latest
success, and the error of the latest test if that failed. -/
structure Trace where
  output : Option Value := none
  error : Option String := none

/-- What a record is to tell of a node. -/
def NodeState.trace (st : NodeState) : Trace := ⟨st.output, st.error.map TestError.message⟩

/-- The id and the name of a node. -/
def Node.label (n : Node) : String × String := (n.id, n.name)

/-- Renames the first entry with an id, if its name is the one before. -/
def renameLabel (id before after : String) :
    List (String × String) → Option (List (String × String))
  | [] => none
  | (k, name) :: rest =>
      if k = id then if name = before then some ((k, after) :: rest) else none
      else (renameLabel id before after rest).map fun rest => (k, name) :: rest

namespace EventKind

/-- Replays an event on what is told of the tests. -/
def replayState (t : Table Trace) : EventKind → Table Trace
  | .testCompleted node output _ => t.insert node { output := some output, error := none }
  | .testFailed node error _ =>
      t.insert node { output := (t.get? node).bind Trace.output, error := some error }
  | .nodeRemoved node => t.erase node
  | _ => t

/-- Replays an event on the ids and names of the nodes. -/
def replayNode (l : List (String × String)) : EventKind → Option (List (String × String))
  | .nodeAdded node name => some (l ++ [(node, name)])
  | .nodeRenamed node before after => renameLabel node before after l
  | .nodeRemoved node => some (l.eraseP fun e => e.1 = node)
  | _ => some l

/-- The event tells of nothing that is replayed. -/
def Idle (k : EventKind) : Prop := (∀ t, replayState t k = t) ∧ ∀ l, replayNode l k = some l

end EventKind

open EventKind

/-- The outputs that a workflow starts with, as they are told. -/
def Workflow.traces (w : Workflow) : Table Trace :=
  w.outputs.mapWithKey fun _ output => { output := some output }

theorem foldl_replayState_of_idle : ∀ (ks : List EventKind) (t : Table Trace),
    (∀ k ∈ ks, k.Idle) → ks.foldl replayState t = t
  | [], _, _ => rfl
  | k :: rest, t, h => by
    rw [List.foldl_cons, (h k List.mem_cons_self).1]
    exact foldl_replayState_of_idle rest t fun x hx => h x (List.mem_cons_of_mem k hx)

theorem foldlM_replayNode_of_idle : ∀ (ks : List EventKind) (l : List (String × String)),
    (∀ k ∈ ks, k.Idle) → ks.foldlM replayNode l = some l
  | [], _, _ => rfl
  | k :: rest, l, h => by
    rw [List.foldlM_cons, (h k List.mem_cons_self).2]
    exact foldlM_replayNode_of_idle rest l fun x hx => h x (List.mem_cons_of_mem k hx)

/-- What a test starts with is not replayed. -/
theorem idle_of_mem_startEvents {id : String} {u : Context} {r : ResolvedConfig} {k : EventKind}
    (hk : k ∈ Session.startEvents id u r) : k.Idle := by
  unfold Session.startEvents at hk
  rcases List.mem_cons.1 hk with rfl | hk
  · exact ⟨fun _ => rfl, fun _ => rfl⟩
  · obtain ⟨f, -, rfl⟩ := List.mem_map.1 hk
    exact ⟨fun _ => rfl, fun _ => rfl⟩

/-- To rename a node from the name that it has is to replay that. -/
theorem renameLabel_map_label {id after : String} {n : Node} : ∀ {ns : List Node},
    ns.find? (fun m => m.id = id) = some n →
      renameLabel id n.name after (ns.map Node.label) =
        some ((Workflow.setName id after ns).map Node.label)
  | [], h => by cases h
  | m :: rest, h => by
    rw [List.find?_cons] at h
    unfold Workflow.setName
    by_cases hid : m.id = id
    · rw [decide_eq_true hid] at h
      injection h with h
      subst h
      show (if m.id = id then _ else _) = _
      rw [if_pos hid, if_pos hid, if_pos rfl]
      rfl
    · rw [decide_eq_false hid] at h
      show (if m.id = id then _ else _) = _
      rw [if_neg hid, if_neg hid, renameLabel_map_label h]
      rfl

namespace Session

/-! ## §2. What is told. -/

variable {w : Workflow} {s s' : Session} {a : Act} {answer : Answer}

/-- The record, replayed on the workflow at the start, comes to what the
session holds. -/
structure Told (w : Workflow) (s : Session) : Prop where
  states : ∀ id,
    (s.record.foldl replayState w.traces).get? id = (s.store.get? id).map NodeState.trace
  nodes : s.record.foldlM replayNode (w.nodes.map Node.label) =
    some (s.workflow.nodes.map Node.label)

theorem told_ofWorkflow (w : Workflow) : Told w (ofWorkflow w) where
  states id := by
    show w.traces.get? id = ((Store.ofOutputs w.outputs).get? id).map NodeState.trace
    unfold Workflow.traces
    rw [Table.get?_mapWithKey, Store.get?_ofOutputs, Option.map_map]
    rfl
  nodes := rfl

namespace Told

variable (h : Told w s)

include h

/-- Events that are not replayed may be added while store and nodes stay. -/
theorem idle (hstore : s'.store = s.store) (hnodes : s'.workflow.nodes = s.workflow.nodes)
    {ks : List EventKind} (hrecord : s'.record = s.record ++ ks) (hidle : ∀ k ∈ ks, k.Idle) :
    Told w s' where
  states id := by
    rw [hrecord, List.foldl_append, foldl_replayState_of_idle ks _ hidle, hstore]
    exact h.states id
  nodes := by
    rw [hrecord, List.foldlM_append, h.nodes, hnodes]
    exact foldlM_replayNode_of_idle ks _ hidle

/-- One more event is told, if it takes what the session held to what it
holds. -/
theorem concat {k : EventKind} (hrecord : s'.record = s.record ++ [k])
    (hstate : ∀ t : Table Trace, (∀ id, t.get? id = (s.store.get? id).map NodeState.trace) →
      ∀ id, (replayState t k).get? id = (s'.store.get? id).map NodeState.trace)
    (hnode : replayNode (s.workflow.nodes.map Node.label) k =
      some (s'.workflow.nodes.map Node.label)) : Told w s' where
  states := by
    rw [hrecord, List.foldl_append]
    exact hstate _ h.states
  nodes := by
    rw [hrecord, List.foldlM_append, h.nodes]
    show replayNode _ k >>= _ = _
    rw [hnode]
    rfl

/-- An event that tells of the nodes and not of the tests. -/
theorem renode (hstore : s'.store = s.store) {k : EventKind}
    (hrecord : s'.record = s.record ++ [k]) (hstate : ∀ t, replayState t k = t)
    (hnode : replayNode (s.workflow.nodes.map Node.label) k =
      some (s'.workflow.nodes.map Node.label)) : Told w s' := by
  refine h.concat hrecord (fun t ht id => ?_) hnode
  rw [hstate, hstore]
  exact ht id

/-- A result that counts is told as it is kept. -/
theorem commit (f : Flight) (r : Except Error Value) (d : Nat) : Told w (s.commit f r d) := by
  refine h.concat (record_commit _ _ _ _) (fun t ht id => ?_) ?_
  · cases r with
    | ok output =>
      show (Table.insert t f.permit.node _).get? id =
        ((s.store.succeed f.permit.node output d).get? id).map NodeState.trace
      rw [Table.get?_insert, Store.get?_succeed]
      split
      · rfl
      · exact ht id
    | error e =>
      show (Table.insert t f.permit.node _).get? id =
        ((s.store.fail f.permit.node e.userMessage d).get? id).map NodeState.trace
      rw [Table.get?_insert, Store.get?_fail, ht f.permit.node]
      split
      · -- the output that is told of the node is the one that it keeps
        cases s.store.get? f.permit.node <;> rfl
      · exact ht id
  · rw [workflow_commit]
    cases r <;> rfl

/-- A test that ends gives its permit back, which is not told. -/
theorem land (f : Flight) : Told w (s.land f) := ⟨h.states, h.nodes⟩

/-- A node goes from the store and from the nodes. -/
theorem remove {id : String} {w' : Workflow} {n : Node}
    (hremove : s.workflow.removeNode id = .ok (w', n)) (g : Gate) :
    Told w
      (emit { s.replace w' with gate := g, store := s.store.clear id } (.nodeRemoved id)) := by
  obtain ⟨-, rfl⟩ := Workflow.removeNode_eq_ok_iff.1 hremove
  refine h.concat (record_emit _ _) (fun t ht k => ?_) ?_
  · show (t.erase id).get? k = ((s.store.clear id).get? k).map NodeState.trace
    rw [Table.get?_erase, Store.get?_clear]
    split
    · rfl
    · exact ht k
  · show some ((s.workflow.nodes.map Node.label).eraseP fun e => e.1 = id) = _
    rw [List.eraseP_map]
    rfl

end Told

/-! ## §3. Along every run. -/

/-- **Every act is told.** -/
theorem Step.told (hs : Step s a s' answer) (h : Told w s) : Told w s' := by
  have hidle : ∀ {k : EventKind}, k.Idle → ∀ x ∈ [k], x.Idle := by
    intro k hk x hx
    rw [List.mem_singleton.1 hx]
    exact hk
  cases hs with
  | stray | waiting | asking | idle | notAdded | notRenamed | notRemoved | notConnected => exact h
  | unknown => exact ⟨h.states, h.nodes⟩
  | cancelled => exact ⟨h.states, h.nodes⟩
  | rejected =>
    exact h.idle rfl rfl (record_emit _ _) (hidle ⟨fun _ => rfl, fun _ => rfl⟩)
  | started =>
    exact h.idle rfl rfl (record_launch _ _ _) fun k hk => idle_of_mem_startEvents hk
  | abandoned =>
    exact h.idle rfl rfl (record_abandon _ _) (hidle ⟨fun _ => rfl, fun _ => rfl⟩)
  | settled => exact (h.commit _ _ _).land _
  | added hadd =>
    obtain ⟨-, rfl, rfl⟩ := Workflow.addNode_eq_ok_iff.1 hadd
    refine h.renode rfl (record_emit _ _) (fun _ => rfl) ?_
    rw [workflow_emit, workflow_replace, List.map_append]
    rfl
  | renamed hrename =>
    obtain ⟨hhas, -, rfl⟩ := Workflow.renameNode_eq_ok_iff.1 hrename
    rw [← Workflow.isSome_node?_iff] at hhas
    obtain ⟨n, hn⟩ := Option.isSome_iff_exists.1 hhas
    refine h.renode rfl (record_emit _ _) (fun _ => rfl) ?_
    rw [hn]
    exact renameLabel_map_label hn
  | removed hremove => exact h.remove hremove _
  | connected hadd =>
    have hnodes := Workflow.nodes_of_addEdge hadd
    split
    · exact h.idle rfl hnodes (record_emit _ _) (hidle ⟨fun _ => rfl, fun _ => rfl⟩)
    · exact h.idle rfl hnodes (List.append_nil _).symm (by simp)

theorem told_run (w : Workflow) (acts : List Act) : Told w ((ofWorkflow w).run acts) :=
  run_keeps Step.told acts (told_ofWorkflow w)

/-- **The record tells the store and the nodes.**  Replayed on the outputs
that the workflow kept, it comes to the output and the error that the store
holds of every node, and to nothing for the others; replayed on the nodes
that the workflow had, it comes to the ids and names of the nodes in order,
and every name that it says was replaced was held. -/
theorem record_tells_store_and_nodes (w : Workflow) (h : w.validate = .ok ()) (acts : List Act) :
    let s := (ofWorkflow w).run acts
    (∀ id, (s.record.foldl replayState w.traces).get? id =
      (s.store.get? id).map NodeState.trace) ∧
    s.record.foldlM replayNode (w.nodes.map Node.label) = some (s.nodes.map Node.label) := by
  intro s
  have htold : Told w s := told_run w acts
  have hsound : s.Sound := sound_run ((Workflow.validate_eq_ok_iff w).1 h) acts
  have hnodes : s.nodes = s.workflow.nodes := by
    show s.graph.nodes = _
    rw [hsound.indexed]
    exact FlowGraph.nodes_ofWorkflow hsound.valid.ids
  refine ⟨htold.states, ?_⟩
  rw [hnodes]
  exact htold.nodes

/-- A node is removed while its test runs, added again and renamed; the older
test comes to a value afterwards, which is told of as cancelled, and a newer
one fails. -/
theorem record_tells_of_readded_node :
    let w : Workflow := { nodes := [⟨"n", "N", .manual⟩] }
    let s := (ofWorkflow w).run
      [.test "" "n", .removeNode "n", .addNode "n" none .manual, .renameNode "n" "M",
        .test "" "n", .resume 0 (.result (.ok (.bool true))) 7,
        .resume 1 (.result (.error (.execution "n" "boom"))) 7]
    w.validate = .ok () ∧
      ((s.record.foldl replayState w.traces).get? "n").map
          (fun t => (t.output.isSome, t.error)) = some (false, some "boom") ∧
      s.record.foldlM replayNode [("n", "N")] = some [("n", "M")] := by
  intro w s
  have h : w.validate = .ok () := by decide
  obtain ⟨hstates, hnodes⟩ := record_tells_store_and_nodes w h
    [.test "" "n", .removeNode "n", .addNode "n" none .manual, .renameNode "n" "M",
      .test "" "n", .resume 0 (.result (.ok (.bool true))) 7,
      .resume 1 (.result (.error (.execution "n" "boom"))) 7]
  refine ⟨h, ?_, ?_⟩
  · rw [hstates "n"]
    decide +kernel
  · have hnamed : s.nodes.map Node.label = [("n", "M")] := by decide +kernel
    rw [← hnamed]
    exact hnodes

end Session

end FlowBench
