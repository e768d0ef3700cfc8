/-
  FlowBench.Proofs.Session.Warnings
  ─────────────────────────────────
  **What the start of a test warns of.**

  An output may reach a node wrongly in two ways: it is stale, or it selects
  another way out.  `dueWarning?` tells them apart.  The start of a test does
  not: no data flows from a stale output, so the look at the branch, which
  comes first, takes a stale parent for one that selects another way out.
  The warning of a stale parent is never given.
-/
import FlowBench.Proofs.Branch
import FlowBench.Proofs.Session.Soundness

namespace FlowBench.Session

variable {s s' : Session} {a : Act} {answer : Answer} {id : String} {e : Edge} {f : Flight}

/-! ## §1. The warning that is due. -/

/-- The source of an edge has an output, which selects another way out. -/
def offBranch (s : Session) (e : Edge) : Bool :=
  match s.workflow.node? e.source, s.store.output? e.source with
  | some n, some output => !n.config.selects output e
  | _, _ => false

/-- The warning that is due for an edge: of its source if what that left
behind is stale, else of the branch if the edge is not on it. -/
def dueWarning? (s : Session) (e : Edge) : Option Warning :=
  if s.store.isStale e.source then some (.staleParent e.target e.source)
  else if s.offBranch e then some (.inactiveParent e.target e.source e.id)
  else none

/-- What is stale is an output. -/
theorem isStale_of_no_output (h : s.store.output? id = none) : s.store.isStale id = false := by
  unfold Store.isStale
  cases hst : s.store.get? id with
  | none => rfl
  | some st =>
    have hout : st.output = none := by simpa [Store.output?, hst] using h
    simp [NodeState.isStale, hout]

/-! ## §2. The warning that is given. -/

section

-- of the store nothing is asked
variable (hvalid : s.workflow.Valid) (hindexed : s.graph = .ofWorkflow s.workflow)

include hvalid hindexed

/-- An edge gets the same warning for a stale source as for another way
out. -/
theorem warningOf?_eq (he : e ∈ s.workflow.edges) :
    s.warningOf? id e =
      if s.store.isStale e.source || s.offBranch e then some (.inactiveParent id e.source e.id)
      else none := by
  -- the edge has a source, so that output and branch alone decide
  obtain ⟨n, hn⟩ := Option.isSome_iff_exists.1
    (Workflow.isSome_node?_iff.2 (hvalid.sources e he))
  have hindex : s.graph.node? e.source = some n := by
    rw [hindexed, FlowGraph.node?_ofWorkflow hvalid.ids]
    exact hn
  unfold warningOf? offBranch
  rw [hn]
  cases hout : s.store.output? e.source with
  | none => simp [isStale_of_no_output hout]
  | some output =>
    cases hstale : s.store.isStale e.source with
    -- the look at the branch has the answer already
    | true => simp [FlowGraph.isLive_of_isStale hstale]
    | false =>
      rw [FlowGraph.isLive_of_output hindex hout hstale]
      simp

/-- Where nothing is stale, the warning given is the one that is due. -/
theorem warningOf?_eq_dueWarning? (he : e ∈ s.workflow.edges)
    (h : s.store.isStale e.source = false) : s.warningOf? e.target e = s.dueWarning? e := by
  rw [warningOf?_eq hvalid hindexed he]
  unfold dueWarning?
  rw [h]
  simp

/-- The edges into a node get warnings in their order. -/
theorem warningsAt_eq (id : String) :
    s.warningsAt id =
      ((s.workflow.edges.filter fun e => e.target = id).filter fun e =>
        s.store.isStale e.source || s.offBranch e).map fun e =>
          .inactiveParent id e.source e.id := by
  unfold warningsAt
  rw [hindexed, FlowGraph.parents_ofWorkflow]
  calc (s.workflow.edges.filter fun e => e.target = id).filterMap (s.warningOf? id)
      = (s.workflow.edges.filter fun e => e.target = id).filterMap fun e =>
          (Option.guard (fun e => s.store.isStale e.source || s.offBranch e) e).map fun e =>
            .inactiveParent id e.source e.id := by
        refine List.filterMap_congr fun e he => ?_
        rw [warningOf?_eq hvalid hindexed (List.mem_of_mem_filter he), Option.guard]
        split <;> rfl
    _ = _ := by rw [← List.map_filterMap, List.filterMap_eq_filter]

end

/-! ## §3. No warning of a stale parent. -/

/-- A source whose edge is live is not stale, so the last question of
`warningOf?` is answered before it is asked. -/
theorem warningOf?_ne_staleParent (node parent : String) :
    s.warningOf? id e ≠ some (.staleParent node parent) := by
  unfold warningOf?
  cases hlive : s.graph.isLive s.store e with
  | false => split <;> simp
  | true =>
    have hfresh : s.store.isStale e.source = false := by
      cases hstale : s.store.isStale e.source with
      | false => rfl
      | true =>
        rw [FlowGraph.isLive_of_isStale hstale] at hlive
        cases hlive
    simp [hfresh]

/-- No parent was said to be stale. -/
def NoneStale (s : Session) : Prop := ∀ node parent, .staleParent node parent ∉ s.warnings

theorem NoneStale.of_append {ws : List Warning} (h : s.NoneStale)
    (hs' : s'.warnings = s.warnings ++ ws) (hws : ∀ node parent, .staleParent node parent ∉ ws) :
    s'.NoneStale := by
  intro node parent hmem
  rw [hs'] at hmem
  rcases List.mem_append.1 hmem with hmem | hmem
  · exact h node parent hmem
  · exact hws node parent hmem

theorem Step.noneStale (hs : Step s a s' answer) (h : s.NoneStale) : s'.NoneStale := by
  cases hs with
  | stray | waiting | asking | idle | notAdded | notRenamed | notRemoved | notConnected => exact h
  | unknown | cancelled | abandoned | added | renamed | removed => exact h
  | rejected => exact h.of_append rfl (by simp)
  | @started _ id =>
    have hws : ∀ node parent, .staleParent node parent ∉ s.warningsAt id := by
      intro node parent hmem
      obtain ⟨e, -, he⟩ := List.mem_filterMap.1 hmem
      exact warningOf?_ne_staleParent node parent he
    exact h.of_append rfl hws
  | @settled _ _ _ _ r =>
    cases r with
    | ok output => exact h
    | error e => exact h.of_append rfl (by simp)
  | connected => split <;> exact h

/-- **No session ever says that a parent's output is stale.** -/
theorem noneStale_run (w : Workflow) (acts : List Act) : ((ofWorkflow w).run acts).NoneStale :=
  run_keeps Step.noneStale acts fun _ _ hmem => by cases hmem

/-! ## §4. The start of a test. -/

/-- A test of a node that exists starts when none of it runs. -/
theorem started_of_free {clock : String} {n : Node} (hfree : s.gate.isRunning id = false)
    (hn : s.graph.node? id = some n) :
    (s.perform (.test clock id)).2 = .tested (.ok (s.prepare clock n ⟨id, s.gate.next⟩)) := by
  simp only [perform, start, Gate.acquire, hfree, hn]
  rfl

/-- A test that starts warns of the edges into its node. -/
theorem Step.warnings_of_started {clock : String}
    (hs : Step s (.test clock id) s' (.tested (.ok f))) :
    s'.warnings = s.warnings ++ s.warningsAt id := by
  cases hs with
  | started => rfl

/-- **A test that starts warns of every parent whose output is stale or
selects another way out, and of each as if it were the latter.**  Hence the
warnings are those that are due just when no parent is stale.  Both hold in
every state that a session comes to, whatever its store is made to hold. -/
theorem warnings_of_started_test (w : Workflow) (h : w.validate = .ok ()) (acts : List Act)
    (store : Store) (clock id : String) (f : Flight)
    (hstart : (perform { (ofWorkflow w).run acts with store := store } (.test clock id)).2 =
      .tested (.ok f)) :
    let s : Session := { (ofWorkflow w).run acts with store := store }
    let s' := (s.perform (.test clock id)).1
    let into := s.workflow.edges.filter fun e => e.target = id
    s'.warnings = s.warnings ++
        (into.filter fun e => s.store.isStale e.source || s.offBranch e).map
          (fun e => .inactiveParent id e.source e.id) ∧
      (s'.warnings = s.warnings ++ into.filterMap s.dueWarning? ↔
        ∀ e ∈ into, s.store.isStale e.source = false) := by
  intro s s' into
  have hsound := sound_run ((Workflow.validate_eq_ok_iff w).1 h) acts
  have hvalid : s.workflow.Valid := hsound.valid
  have hindexed : s.graph = .ofWorkflow s.workflow := hsound.indexed
  have hgiven : s'.warnings = s.warnings ++ s.warningsAt id :=
    Step.warnings_of_started (hstart ▸ step_perform s (.test clock id))
  refine ⟨by rw [hgiven, warningsAt_eq hvalid hindexed], ?_, ?_⟩
  · intro hdue e he
    by_contra hstale
    rw [Bool.not_eq_false] at hstale
    -- the warning that is due is one that is never given
    have hold : s.NoneStale := noneStale_run w acts
    have hnone : s'.NoneStale := (step_perform s _).noneStale hold
    refine hnone e.target e.source ?_
    rw [hdue]
    refine List.mem_append_right _ (List.mem_filterMap.2 ⟨e, he, ?_⟩)
    rw [dueWarning?, if_pos hstale]
  · intro hfresh
    rw [hgiven, warningsAt, hindexed, FlowGraph.parents_ofWorkflow]
    congr 1
    refine List.filterMap_congr fun e he => ?_
    obtain ⟨hmem, htarget⟩ := List.mem_filter.1 he
    rw [← of_decide_eq_true htarget]
    exact warningOf?_eq_dueWarning? hvalid hindexed hmem (hfresh e he)

/-- Of two parents the one is stale, and the other is a condition that
selects another way out. -/
theorem warnings_of_two_parents :
    let w : Workflow :=
      { nodes := [⟨"a", "A", .manual⟩, ⟨"k", "K", .conditional { left := "" }⟩, ⟨"n", "N", .manual⟩]
        edges := [.connect "a" "n" none, .connect "k" "n" (some "false")]
        outputs := (Table.empty.insert "a" .null).insert "k" (.obj [("result", .bool true)]) }
    let acts : List Act := [.test "" "a", .resume 0 (.result (.error (.execution "a" "boom"))) 7]
    let s := (ofWorkflow w).run acts
    let s' := (s.perform (.test "" "n")).1
    w.validate = .ok () ∧
      (∃ f, (s.perform (.test "" "n")).2 = .tested (.ok f)) ∧
      s'.warnings =
        s.warnings ++ [.inactiveParent "n" "a" "a->n", .inactiveParent "n" "k" "k:false->n"] ∧
      s'.warnings ≠ s.warnings ++ w.edges.filterMap s.dueWarning? := by
  intro w acts s s'
  have h : w.validate = .ok () := by decide +kernel
  have hstart : (s.perform (.test "" "n")).2 =
      .tested (.ok (s.prepare "" ⟨"n", "N", .manual⟩ ⟨"n", s.gate.next⟩)) :=
    started_of_free (by decide +kernel) (by decide +kernel)
  obtain ⟨hgiven, hdue⟩ := warnings_of_started_test w h acts s.store "" "n" _ hstart
  refine ⟨h, ⟨_, hstart⟩, ?_, fun heq => ?_⟩
  · rw [hgiven]
    decide +kernel
  · have hfresh := hdue.1 heq (.connect "a" "n" none) (by decide +kernel)
    have hstale : s.store.isStale "a" = true := by decide +kernel
    rw [show s.store.isStale "a" = false from hfresh] at hstale
    cases hstale

/-- A node's only parent is stale: the warning that is due is that of a
stale parent, the one that is given that of an inactive branch. -/
theorem stale_parent_is_called_inactive :
    let w : Workflow :=
      { nodes := [⟨"a", "A", .manual⟩, ⟨"b", "B", .manual⟩]
        edges := [.connect "a" "b" none]
        outputs := Table.empty.insert "a" .null }
    let s := (ofWorkflow w).run
      [.test "" "a", .resume 0 (.result (.error (.execution "a" "boom"))) 7]
    let s' := (s.perform (.test "" "b")).1
    w.validate = .ok () ∧
      w.edges.filterMap s.dueWarning? = [.staleParent "b" "a"] ∧
      s'.warnings = s.warnings ++ [.inactiveParent "b" "a" "a->b"] := by
  decide +kernel

end FlowBench.Session
