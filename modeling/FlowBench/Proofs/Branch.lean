/-
  FlowBench.Proofs.Branch
  ───────────────────────
  **When data flows along an edge.**

  Two things keep data off an edge whose source has an output: the output is
  stale, or it selects another way out.  `selects` is the second alone.
-/
import FlowBench.Branch

namespace FlowBench

/-- Whether an output lets data leave by an edge of its node: by any where
the node does not choose, else by the way out that the output selects. -/
def NodeConfig.selects (c : NodeConfig) (output : Value) (e : Edge) : Bool :=
  if c.chooses then (c.activeHandle output).any fun h => e.handle = some h else true

namespace Store

variable {store : Store} {id : String} {output : Value}

/-- What is kept of a node may leave it when its latest test did not fail. -/
theorem live_eq_some_iff :
    ((store.get? id).bind fun st => if st.isLive then st.output else none) = some output ↔
      store.output? id = some output ∧ store.error? id = none := by
  unfold output? error? NodeState.isLive
  cases store.get? id with
  | none => simp
  | some st => cases hout : st.output <;> cases herr : st.error <;> simp [hout, herr]

theorem isStale_eq_true_iff :
    store.isStale id = true ↔ store.output? id ≠ none ∧ store.error? id ≠ none := by
  unfold isStale output? error? NodeState.isStale
  cases store.get? id with
  | none => simp
  | some st => simp [Option.isSome_iff_ne_none]

end Store

variable {store : Store} {e : Edge}

/-- Data leaves a node by what its latest output selects, unless its latest
test failed. -/
theorem Node.allows_branch_iff (n : Node) {id : String} :
    (n.branch (store.get? id)).allows e = true ↔ ∃ output, store.output? id = some output ∧
      store.error? id = none ∧ n.config.selects output e = true := by
  simp only [← and_assoc, ← Store.live_eq_some_iff]
  unfold branch NodeConfig.selects
  cases ((store.get? id).bind fun st => if st.isLive then st.output else none) with
  | none => simp [Branch.allows]
  | some output =>
    cases hc : n.config.chooses with
    | false => simp [Branch.allows]
    | true => cases hway : n.config.activeHandle output <;> simp [hway, Branch.allows]

namespace FlowGraph

variable {g : FlowGraph}

/-- **An edge is live when its source has an output, the source's latest test
did not fail, and the output lets data leave by the edge.** -/
theorem isLive_iff : g.isLive store e = true ↔ ∃ n output, g.node? e.source = some n ∧
    store.output? e.source = some output ∧ store.error? e.source = none ∧
      n.config.selects output e = true := by
  unfold isLive
  cases hn : g.node? e.source with
  | none => simp
  | some n => simp [n.allows_branch_iff]

/-- No data flows from a node whose output is stale, by whatever way out. -/
theorem isLive_of_isStale (h : store.isStale e.source = true) : g.isLive store e = false := by
  rw [← Bool.not_eq_true, isLive_iff]
  rintro ⟨_, _, -, -, herror, -⟩
  exact (Store.isStale_eq_true_iff.1 h).2 herror

/-- No data flows from a node without an output. -/
theorem isLive_of_no_output (h : store.output? e.source = none) : g.isLive store e = false := by
  rw [← Bool.not_eq_true, isLive_iff]
  rintro ⟨_, _, -, hout, -, -⟩
  rw [h] at hout
  cases hout

/-- From a node whose output is not stale data flows by what it selects. -/
theorem isLive_of_output {n : Node} {output : Value} (hn : g.node? e.source = some n)
    (hout : store.output? e.source = some output) (h : store.isStale e.source = false) :
    g.isLive store e = n.config.selects output e := by
  have herror : store.error? e.source = none := by
    rw [← Bool.not_eq_true, Store.isStale_eq_true_iff] at h
    simpa [hout] using h
  rw [Bool.eq_iff_iff, isLive_iff]
  simp [hn, hout, herror]

end FlowGraph

end FlowBench
