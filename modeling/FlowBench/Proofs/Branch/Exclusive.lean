/-
  FlowBench.Proofs.Branch.Exclusive
  ─────────────────────────────────
  **Data leaves a node that chooses by one way out.**

  What an output selects is told from the output alone: a condition by the
  truth value it names, a switch by the integer (`activeHandle_switch_iff`).
  It is a way out that the node declares, and a live edge is one of this way
  out.  Nodes of the other kinds choose nothing: data leaves them by all
  their edges or by none.
-/
import FlowBench.Proofs.Branch
import FlowBench.Proofs.Graph.Index
import FlowBench.Proofs.Workflow.Names

namespace FlowBench

/-! ## §1. Ways out. -/

namespace NodeConfig

variable {c : NodeConfig} {s : Switch} {output : Value} {way : String}

theorem ruleHandle_inj {i j : Nat} (h : ruleHandle i = ruleHandle j) : i = j :=
  Workflow.append_toString_inj h

/-- The fallback is no rule's way out. -/
theorem ruleHandle_ne_fallback (i : Nat) : ruleHandle i ≠ fallbackHandle := by
  intro h
  have hletter := congrArg (fun way => way.toList.head?) h
  rw [ruleHandle, String.toList_append, List.head?_append_of_ne_nil _ (by decide)] at hletter
  exact absurd hletter (by decide)

/-- The output of a switch names an integer that fits 64 bits with a sign. -/
def Matches (output : Value) (i : Int) : Prop :=
  output.field? "matchedOutput" = some (.int i) ∧ -0x8000000000000000 ≤ i ∧ i < 0x8000000000000000

theorem int64?_eq_some_iff {v : Value} {i : Int} :
    v.int64? = some i ↔ v = .int i ∧ -0x8000000000000000 ≤ i ∧ i < 0x8000000000000000 := by
  unfold Value.int64?
  cases v with
  | int j =>
    simp only [Option.ite_none_right_eq_some, Option.some.injEq, Value.int.injEq]
    constructor
    · rintro ⟨hrange, rfl⟩
      exact ⟨rfl, by omega⟩
    · rintro ⟨rfl, hrange⟩
      exact ⟨by omega, rfl⟩
  | _ => simp

theorem matched_eq_some_iff {i : Int} :
    (output.field? "matchedOutput").bind Value.int64? = some i ↔ Matches output i := by
  rw [Option.bind_eq_some_iff]
  unfold Matches
  constructor
  · rintro ⟨v, hv, hi⟩
    obtain ⟨rfl, hrange⟩ := int64?_eq_some_iff.1 hi
    exact ⟨hv, hrange⟩
  · rintro ⟨hv, hrange⟩
    exact ⟨_, hv, int64?_eq_some_iff.2 ⟨rfl, hrange⟩⟩

/-- **A switch selects the rule that its output numbers**, if it has it, and
its fallback for a negative number, if that is open. -/
theorem activeHandle_switch_iff : (switch s).activeHandle output = some way ↔
    (∃ i : Nat, Matches output i ∧ i < s.rules.length ∧ way = ruleHandle i) ∨
      ∃ i : Int, Matches output i ∧ i < 0 ∧ s.fallback = true ∧ way = fallbackHandle := by
  unfold activeHandle
  simp only [Option.bind_eq_some_iff, ← matched_eq_some_iff]
  constructor
  · rintro ⟨i, hi, hway⟩
    split at hway
    · next hneg =>
      split at hway
      · next hopen =>
        cases hway
        exact .inr ⟨i, hi, hneg, hopen, rfl⟩
      · cases hway
    · split at hway
      · next hneg hlt =>
        cases hway
        obtain ⟨k, rfl⟩ := Int.eq_ofNat_of_zero_le (Int.not_lt.1 hneg)
        exact .inl ⟨k, hi, by omega, rfl⟩
      · cases hway
  · rintro (⟨i, hi, hlt, rfl⟩ | ⟨i, hi, hneg, hopen, rfl⟩)
    · refine ⟨i, hi, ?_⟩
      rw [if_neg (by omega), if_pos (by omega), Int.toNat_natCast]
    · exact ⟨i, hi, by rw [if_pos hneg, if_pos hopen]⟩

theorem activeHandle_switch_rule_iff {i : Nat} :
    (switch s).activeHandle output = some (ruleHandle i) ↔
      Matches output i ∧ i < s.rules.length := by
  rw [activeHandle_switch_iff]
  constructor
  · rintro (⟨j, hj, hlt, heq⟩ | ⟨_, _, _, _, heq⟩)
    · obtain rfl := ruleHandle_inj heq
      exact ⟨hj, hlt⟩
    · exact absurd heq (ruleHandle_ne_fallback i)
  · rintro ⟨hi, hlt⟩
    exact .inl ⟨i, hi, hlt, rfl⟩

theorem activeHandle_switch_fallback_iff :
    (switch s).activeHandle output = some fallbackHandle ↔
      (∃ i : Int, Matches output i ∧ i < 0) ∧ s.fallback = true := by
  rw [activeHandle_switch_iff]
  constructor
  · rintro (⟨i, _, _, heq⟩ | ⟨i, hi, hneg, hopen, -⟩)
    · exact absurd heq.symm (ruleHandle_ne_fallback i)
    · exact ⟨⟨i, hi, hneg⟩, hopen⟩
  · rintro ⟨⟨i, hi, hneg⟩, hopen⟩
    exact .inr ⟨i, hi, hneg, hopen, rfl⟩

/-- What a switch selects.  Its output's number is read as one of 64 bits with
a sign. -/
structure SelectsByNumber (s : Switch) : Prop where
  rule : ∀ (output : Value) (i : Nat),
    (switch s).activeHandle output = some (ruleHandle i) ↔
      output.field? "matchedOutput" = some (.int i) ∧ i < s.rules.length ∧ i < 0x8000000000000000
  fallback : ∀ output : Value,
    (switch s).activeHandle output = some fallbackHandle ↔
      (∃ i : Int, output.field? "matchedOutput" = some (.int i) ∧ -0x8000000000000000 ≤ i ∧ i < 0) ∧
        s.fallback = true
  apart : ∀ i j, ruleHandle i = ruleHandle j → i = j
  ruleNotFallback : ∀ i, ruleHandle i ≠ fallbackHandle

theorem selectsByNumber (s : Switch) : SelectsByNumber s where
  rule output i := by
    rw [activeHandle_switch_rule_iff, Matches, and_assoc]
    exact and_congr_right fun _ => by omega
  fallback output := by
    simp only [activeHandle_switch_fallback_iff, Matches, and_assoc]
    refine and_congr_left fun _ => exists_congr fun i => and_congr_right fun _ => ?_
    omega
  apart _ _ := ruleHandle_inj
  ruleNotFallback := ruleHandle_ne_fallback

/-- **What is selected is a way out that the node declares.** -/
theorem mem_handles_of_activeHandle (h : c.activeHandle output = some way) : way ∈ c.handles := by
  cases c with
  | manual | webhook | schedule | httpRequest | llm | code | set => cases h
  | conditional c =>
    obtain ⟨b, -, rfl⟩ := Option.map_eq_some_iff.1 h
    cases b <;> simp [handles]
  | switch s =>
    show way ∈ (List.range s.rules.length).map ruleHandle ++ _
    rw [List.mem_append]
    rcases activeHandle_switch_iff.1 h with ⟨i, -, hlt, rfl⟩ | ⟨_, -, -, hopen, rfl⟩
    · exact .inl (List.mem_map_of_mem (List.mem_range.2 hlt))
    · exact .inr (by simp [hopen])

theorem chooses_iff : c.chooses = true ↔ c.kind = .conditional ∨ c.kind = .switch := by
  cases c <;> simp [chooses, kind]

/-- A node that does not choose selects nothing. -/
theorem activeHandle_of_not_chooses (h : c.chooses = false) : c.activeHandle output = none := by
  cases c with
  | conditional | switch => cases h
  | _ => rfl

theorem selects_iff (h : c.chooses = true) {e : Edge} :
    c.selects output e = true ↔ ∃ way, c.activeHandle output = some way ∧ e.handle = some way := by
  unfold selects
  rw [if_pos h]
  cases c.activeHandle output <;> simp

end NodeConfig

/-! ## §2. What a node selects. -/

section Selected

variable {store : Store} {id : String}

/-- A node selects what its output does, unless its latest test failed. -/
theorem Node.handle?_branch_eq_some_iff (n : Node) {way : String} :
    (n.branch (store.get? id)).handle? = some way ↔ ∃ output, store.output? id = some output ∧
      store.error? id = none ∧ n.config.activeHandle output = some way := by
  simp only [← and_assoc, ← Store.live_eq_some_iff]
  unfold Node.branch
  cases ((store.get? id).bind fun st => if st.isLive then st.output else none) with
  | none => simp [Branch.handle?]
  | some output =>
    cases hc : n.config.chooses with
    | false => simp [Branch.handle?, NodeConfig.activeHandle_of_not_chooses hc]
    | true => cases hway : n.config.activeHandle output <;> simp [Branch.handle?, hway]

end Selected

namespace FlowGraph

variable {store : Store} {g : FlowGraph} {e : Edge} {n : Node}

/-! ## §3. What is live. -/

/-- A node that chooses gives its data to the edges of what it selects. -/
theorem mem_liveEdges_iff_of_chooses (hn : g.node? n.id = some n) (h : n.config.chooses = true)
    (he : e ∈ g.edges) (hsource : e.source = n.id) : e ∈ g.liveEdges store ↔
      ∃ way, (n.branch (store.get? n.id)).handle? = some way ∧ e.handle = some way := by
  rw [liveEdges, List.mem_filter, and_iff_right he, isLive_iff, hsource]
  constructor
  · rintro ⟨m, output, hm, hout, herror, hselects⟩
    obtain rfl : n = m := Option.some.inj (hn.symm.trans hm)
    obtain ⟨way, hway, hhandle⟩ := (NodeConfig.selects_iff h).1 hselects
    exact ⟨way, n.handle?_branch_eq_some_iff.2 ⟨output, hout, herror, hway⟩, hhandle⟩
  · rintro ⟨way, hselected, hhandle⟩
    obtain ⟨output, hout, herror, hway⟩ := n.handle?_branch_eq_some_iff.1 hselected
    exact ⟨n, output, hn, hout, herror, (NodeConfig.selects_iff h).2 ⟨way, hway, hhandle⟩⟩

/-- A live edge that leaves such a node has the way out that is selected. -/
theorem exists_handle_of_mem_liveEdges (hn : g.node? n.id = some n)
    (h : n.config.chooses = true) (he : e ∈ g.liveEdges store) (hsource : e.source = n.id) :
    ∃ way, (n.branch (store.get? n.id)).handle? = some way ∧ e.handle = some way :=
  (mem_liveEdges_iff_of_chooses hn h (List.mem_of_mem_filter he) hsource).1 he

/-- A node that does not choose gives its data to every edge. -/
theorem mem_liveEdges_iff_of_not_chooses (hn : g.node? n.id = some n)
    (h : n.config.chooses = false) (he : e ∈ g.edges) (hsource : e.source = n.id) :
    e ∈ g.liveEdges store ↔ store.output? n.id ≠ none ∧ store.error? n.id = none := by
  rw [liveEdges, List.mem_filter, and_iff_right he, isLive_iff, hsource,
    Option.ne_none_iff_exists']
  constructor
  · rintro ⟨_, output, -, hout, herror, -⟩
    exact ⟨⟨output, hout⟩, herror⟩
  · rintro ⟨⟨output, hout⟩, herror⟩
    refine ⟨n, output, hn, hout, herror, ?_⟩
    unfold NodeConfig.selects
    rw [h]
    rfl

/-! ## §4. One way out. -/

/-- The edges that data takes from a node that chooses are those of one way
out, which the node declares. -/
structure LeavesByOne (g : FlowGraph) (store : Store) (n : Node) : Prop where
  /-- What is selected, if anything, is what the latest output selects. -/
  selected : ∀ way, (n.branch (store.get? n.id)).handle? = some way ↔
    ∃ output, store.output? n.id = some output ∧ store.error? n.id = none ∧
      n.config.activeHandle output = some way
  declared : ∀ way, (n.branch (store.get? n.id)).handle? = some way → way ∈ n.config.handles
  live : ∀ e ∈ g.edges, e.source = n.id → (e ∈ g.liveEdges store ↔
    ∃ way, (n.branch (store.get? n.id)).handle? = some way ∧ e.handle = some way)
  same : ∀ e ∈ g.liveEdges store, ∀ e' ∈ g.liveEdges store, e.source = n.id → e'.source = n.id →
    e.handle = e'.handle
  labelled : ∀ e ∈ g.liveEdges store, e.source = n.id → e.handle ≠ none
  silent : store.output? n.id = none ∨ store.error? n.id ≠ none →
    ∀ e ∈ g.liveEdges store, e.source ≠ n.id

theorem leavesByOne (hn : g.node? n.id = some n) (h : n.config.chooses = true) :
    g.LeavesByOne store n where
  selected _ := n.handle?_branch_eq_some_iff
  declared way hselected := by
    obtain ⟨output, -, -, hactive⟩ := n.handle?_branch_eq_some_iff.1 hselected
    exact NodeConfig.mem_handles_of_activeHandle hactive
  live e he hsource := mem_liveEdges_iff_of_chooses hn h he hsource
  same e he e' he' hsource hsource' := by
    obtain ⟨way, hselected, hhandle⟩ := exists_handle_of_mem_liveEdges hn h he hsource
    obtain ⟨way', hselected', hhandle'⟩ := exists_handle_of_mem_liveEdges hn h he' hsource'
    rw [hhandle, hhandle', ← hselected, hselected']
  labelled e he hsource := by
    obtain ⟨way, -, hhandle⟩ := exists_handle_of_mem_liveEdges hn h he hsource
    simp [hhandle]
  silent hdead e he hsource := by
    obtain ⟨way, hselected, -⟩ := exists_handle_of_mem_liveEdges hn h he hsource
    obtain ⟨output, hout, herror, -⟩ := n.handle?_branch_eq_some_iff.1 hselected
    simp [hout, herror] at hdead

/-- **Data leaves a node by one way.**  In a valid workflow the live edges
of a condition or a switch have one handle, which the node declares and its
output selects.  The edges of any other node are live together, as soon as it
has an output that is not stale. -/
theorem data_leaves_by_one_way (w : Workflow) (h : w.validate = .ok ()) (store : Store) (n : Node)
    (hn : n ∈ w.nodes) :
    (n.config.kind = .conditional ∨ n.config.kind = .switch →
      (ofWorkflow w).LeavesByOne store n) ∧
    (∀ s, n.config = .switch s → NodeConfig.SelectsByNumber s) ∧
    (¬(n.config.kind = .conditional ∨ n.config.kind = .switch) →
      ∀ e ∈ w.edges, e.source = n.id → (e ∈ (ofWorkflow w).liveEdges store ↔
        store.output? n.id ≠ none ∧ store.error? n.id = none)) := by
  have hids := ((Workflow.validate_eq_ok_iff w).1 h).ids
  have hnode : (ofWorkflow w).node? n.id = some n :=
    (node?_ofWorkflow hids n.id).trans ((Workflow.node?_eq_some_iff hids).2 ⟨hn, rfl⟩)
  refine ⟨fun hkind => ?_, fun s _ => NodeConfig.selectsByNumber s, fun hkind e he hsource => ?_⟩
  · exact leavesByOne hnode (NodeConfig.chooses_iff.2 hkind)
  · rw [← NodeConfig.chooses_iff, Bool.not_eq_true] at hkind
    exact mem_liveEdges_iff_of_not_chooses hnode hkind he hsource

/-- A switch that selects the second of its rules, behind a trigger; one of
its edges has no handle. -/
theorem data_leaves_switch_by_second_rule :
    let s : Switch := { value := "v", rules := [{ value := "a" }, { value := "b" }] }
    let w : Workflow :=
      { nodes := [⟨"m", "M", .manual⟩, ⟨"s", "S", .switch s⟩]
        edges := [⟨"e", "m", "s", none⟩, ⟨"f", "s", "m", some "output0"⟩,
          ⟨"g", "s", "m", some "output1"⟩, ⟨"h", "s", "m", some "fallback"⟩,
          ⟨"i", "s", "m", none⟩] }
    let store := (Store.seed {} "m" .null).seed "s" (.obj [("matchedOutput", .int 1)])
    w.validate = .ok () ∧ (⟨"e", "m", "s", none⟩ ∈ (ofWorkflow w).liveEdges store) ∧
      ∀ e ∈ w.edges, e.source = "s" →
        (e ∈ (ofWorkflow w).liveEdges store ↔ e.handle = some "output1") := by
  intro s w store
  have hvalid : w.validate = .ok () := by decide +kernel
  obtain ⟨-, -, htrigger⟩ :=
    data_leaves_by_one_way w hvalid store ⟨"m", "M", .manual⟩ (by simp [w])
  obtain ⟨hswitch, hselects, -⟩ :=
    data_leaves_by_one_way w hvalid store ⟨"s", "S", .switch s⟩ (by simp [w])
  have hway : ((⟨"s", "S", .switch s⟩ : Node).branch (store.get? "s")).handle? = some "output1" :=
    ((hswitch (.inr rfl)).selected _).2
      ⟨_, rfl, rfl, ((hselects s rfl).rule _ 1).2 ⟨rfl, by decide, by decide⟩⟩
  refine ⟨hvalid, (htrigger (by decide) _ (by simp [w]) rfl).2 ⟨nofun, rfl⟩, ?_⟩
  intro e he hsource
  rw [(hswitch (.inr rfl)).live e he hsource, hway]
  simp [eq_comm]

end FlowGraph

end FlowBench
