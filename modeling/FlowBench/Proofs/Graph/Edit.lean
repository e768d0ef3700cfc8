/-
  FlowBench.Proofs.Graph.Edit
  ───────────────────────────
  **What an edit does to what the other nodes see.**

  What a node sees hangs on three things: the edges, which say who its direct
  parents are and who leads to it; the display names; and the outputs.  Each
  edit touches few of them:

      addNode      a node at which no edge is
      renameNode   one display name
      addEdge      one edge at the end, so that more nodes lead to others
      removeNode   the edges at a node and its output

  Positions follow the list of direct parents, names follow `Reaches`; so
  each edit is told by what it does to these two.
-/
import FlowBench.Proofs.Graph.Collect
import FlowBench.Proofs.Store
import FlowBench.Proofs.Workflow.Edit

namespace FlowBench

/-! ## §1. Direct parents. -/

/-- First mentions of what passes a test are the first mentions that pass. -/
theorem eraseDups_filter (p : String → Bool) : ∀ l : List String,
    (l.filter p).eraseDups = l.eraseDups.filter p
  | [] => rfl
  | x :: rest => by
    have hrest := eraseDups_filter p (rest.filter fun y => !y == x)
    rw [List.eraseDups_cons]
    by_cases hx : p x = true
    · rw [List.filter_cons_of_pos hx, List.filter_cons_of_pos hx, List.eraseDups_cons, ← hrest,
        List.filter_filter, List.filter_filter]
      congr 3
      funext y
      exact Bool.and_comm _ _
    · rw [List.filter_cons_of_neg hx, List.filter_cons_of_neg hx, ← hrest, List.filter_filter]
      -- what passes is other than the head, which does not
      congr 2
      funext y
      by_cases hy : y = x
      · subst hy
        simpa using hx
      · simp [hy]
termination_by l => l.length
decreasing_by
  exact Nat.lt_succ_of_le (List.length_filter_le _ _)

/-- An item at the end is mentioned first there, unless it was before. -/
theorem eraseDups_concat (l : List String) (x : String) :
    (l ++ [x]).eraseDups = l.eraseDups ++ if x ∈ l then [] else [x] := by
  rw [List.eraseDups_append]
  by_cases hx : x ∈ l <;> simp [List.removeAll, hx, List.eraseDups_cons]

namespace Workflow

variable {w w' : Workflow} {e : Edge} {id target : String}

/-- Direct parents are told by the edges. -/
theorem directParents_congr (h : w'.edges = w.edges) (target : String) :
    w'.directParents target = w.directParents target := by
  unfold directParents
  rw [h]

theorem mem_directParents_iff {p : String} :
    p ∈ w.directParents target ↔ p ≠ target ∧ ∃ e ∈ w.edges, e.target = target ∧ e.source = p := by
  unfold directParents
  rw [List.mem_eraseDups, List.mem_filter, List.mem_map, and_comm]
  simp [and_assoc]

/-- An edge into one node gives no other a parent. -/
theorem directParents_append_of_ne (h : e.target ≠ target)
    (hedges : w'.edges = w.edges ++ [e]) : w'.directParents target = w.directParents target := by
  unfold directParents
  rw [hedges, List.filter_append]
  simp [h]

/-- No parent is named twice. -/
theorem nodup_directParents (w : Workflow) (target : String) : (w.directParents target).Nodup := by
  obtain ⟨direct, further, hsplit, hparents, _⟩ := FlowGraph.ancestors_split w target
  have hnodup := (FlowGraph.finds_ancestors w target).nodup.1
  rw [hsplit, List.map_append, hparents] at hnodup
  exact hnodup.of_append_left

/-- An edge at the end makes its source the last parent of its target, if it
is a new one. -/
theorem directParents_append (hedges : w'.edges = w.edges ++ [e]) :
    w'.directParents e.target = w.directParents e.target ++
      if e.source = e.target ∨ e.source ∈ w.directParents e.target then [] else [e.source] := by
  have hlast : ([e].filter fun f => f.target = e.target).map Edge.source = [e.source] := by simp
  have hsplit : w'.directParents e.target =
      ((((w.edges.filter fun f => f.target = e.target).map Edge.source).filter
        fun x => x ≠ e.target) ++ [e.source].filter fun x => x ≠ e.target).eraseDups := by
    unfold directParents
    rw [hedges, List.filter_append, List.map_append, hlast, List.filter_append]
  rw [hsplit]
  by_cases hself : e.source = e.target
  · -- a loop makes no parent
    rw [if_pos (.inl hself), List.filter_cons_of_neg (by simpa using hself)]
    simp [directParents]
  · rw [List.filter_cons_of_pos (by simpa using hself), List.filter_nil, eraseDups_concat]
    by_cases hold : e.source ∈ w.directParents e.target
    · rw [if_pos (List.mem_eraseDups.1 hold), if_pos (.inr hold)]
      rfl
    · rw [if_neg (fun h => hold (List.mem_eraseDups.2 h)), if_neg (not_or.2 ⟨hself, hold⟩)]
      rfl

/-- Where a node goes with its edges, it goes from the parents of others. -/
theorem directParents_without {id target : String} (h : target ≠ id)
    (hedges : w'.edges = w.edges.filter fun e => e.source ≠ id && e.target ≠ id) :
    w'.directParents target = (w.directParents target).erase id := by
  rw [(nodup_directParents w target).erase_eq_filter]
  unfold directParents
  rw [hedges, ← eraseDups_filter]
  congr 1
  rw [List.filter_map, List.filter_map, List.filter_map, List.filter_filter, List.filter_filter,
    List.filter_filter, List.filter_filter]
  congr 2
  funext e
  -- an edge into the other node goes only for its source
  by_cases htarget : e.target = target
  · have hne : e.target ≠ id := htarget ▸ h
    by_cases hsource : e.source = id <;> simp [htarget, hsource, h]
  · simp [htarget]

end Workflow

/-- What is seen is told by its two parts. -/
theorem Context.ext_parts {u u' : Context} (hordered : u.ordered = u'.ordered)
    (hnamed : ∀ k, u.named.get? k = u'.named.get? k) : u = u' := by
  obtain ⟨ordered, named⟩ := u
  obtain ⟨ordered', named'⟩ := u'
  obtain rfl : ordered = ordered' := hordered
  obtain rfl : named = named' := Table.ext_get? hnamed
  rfl

namespace FlowGraph

open Workflow

variable {w w' : Workflow} {e : Edge} {n : Node} {id name target : String} {v : Value}

/-! ## §2. Reaching. -/

/-- With more edges no node leads to fewer. -/
theorem Reaches.mono {g g' : FlowGraph} (h : g.edges ⊆ g'.edges) {a b : String}
    (hab : g.Reaches a b) : g'.Reaches a b := by
  induction hab with
  | refl => exact .refl _
  | tail _ hstep ih =>
    obtain ⟨e, he, hends⟩ := hstep
    exact ih.tail ⟨e, h he, hends⟩

/-- With an edge at the end, one node leads to another as before, or through
that edge. -/
theorem reaches_append_iff (hedges : w'.edges = w.edges ++ [e]) {a b : String} :
    (ofWorkflow w').Reaches a b ↔ (ofWorkflow w).Reaches a b ∨
      ((ofWorkflow w).Reaches a e.source ∧ (ofWorkflow w).Reaches e.target b) := by
  have hmore : (ofWorkflow w).edges ⊆ (ofWorkflow w').edges := by
    show w.edges ⊆ w'.edges
    rw [hedges]
    exact List.subset_append_left _ _
  constructor
  · intro h
    induction h with
    | refl => exact .inl (.refl _)
    | tail _ hstep ih =>
      obtain ⟨f, hf, hsource, htarget⟩ := hstep
      have hf : f ∈ w.edges ++ [e] := hedges ▸ hf
      rcases List.mem_append.1 hf with hf | hf
      · -- an older edge goes on from either way here
        have hold : (ofWorkflow w).Step _ _ := ⟨f, hf, hsource, htarget⟩
        exact ih.imp (fun h => h.tail hold) fun h => ⟨h.1, h.2.tail hold⟩
      · obtain rfl : f = e := List.mem_singleton.1 hf
        subst hsource htarget
        exact .inr ⟨ih.elim id fun h => h.1, .refl _⟩
  · intro h
    rcases h with h | ⟨hin, hout⟩
    · exact h.mono hmore
    · have hstep : (ofWorkflow w').Step e.source e.target :=
        ⟨e, by show e ∈ w'.edges; simp [hedges], rfl, rfl⟩
      exact ((hin.mono hmore).tail hstep).trans (hout.mono hmore)

/-- A node that leads to another has an edge out of it. -/
theorem Reaches.exists_out {g : FlowGraph} {a b : String} (hab : g.Reaches a b) (hne : a ≠ b) :
    ∃ e ∈ g.edges, e.source = a := by
  induction hab with
  | refl => exact absurd rfl hne
  | @tail b c _ hstep ih =>
    by_cases hab : a = b
    · obtain ⟨e, he, hsource, _⟩ := hstep
      exact ⟨e, he, hsource.trans hab.symm⟩
    · exact ih hab

/-- A node to which another leads has an edge into it. -/
theorem Reaches.exists_in {g : FlowGraph} {a b : String} (hab : g.Reaches a b) (hne : a ≠ b) :
    ∃ e ∈ g.edges, e.target = b := by
  cases hab with
  | refl => exact absurd rfl hne
  | tail _ hstep =>
    obtain ⟨e, he, _, htarget⟩ := hstep
    exact ⟨e, he, htarget⟩

/-! ## §3. Names that are seen. -/

/-- A display name is bound to the output of the node that has it, if that
node leads to the target. -/
theorem get?_name_collect_iff (hw : w.Valid) {store : Store} (hn : n ∈ w.nodes) :
    ((ofWorkflow w).collect store target).named.get? n.name = some v ↔
      n.id ≠ target ∧ (ofWorkflow w).Reaches n.id target ∧ store.output? n.id = some v := by
  rw [get?_named_collect_iff hw]
  constructor
  · intro h
    obtain ⟨m, hm, hne, hreach, hname, hv⟩ := h
    -- no other node has the name
    obtain rfl : m = n := List.inj_on_of_nodup_map hw.names hm hn hname
    exact ⟨hne, hreach, hv⟩
  · intro h
    obtain ⟨hne, hreach, hv⟩ := h
    exact ⟨n, hn, hne, hreach, rfl, hv⟩

/-- A name that no node has is not bound. -/
theorem get?_named_collect_eq_none (hw : w.Valid) (store : Store) (target : String)
    (h : ∀ n ∈ w.nodes, n.name ≠ name) :
    ((ofWorkflow w).collect store target).named.get? name = none := by
  rw [Option.eq_none_iff_forall_ne_some]
  intro v hv
  obtain ⟨n, hn, _, _, hname, _⟩ := (get?_named_collect_iff hw).1 hv
  exact h n hn hname

/-- Where the edges are the same, the same outputs are seen in order. -/
theorem ordered_collect_congr (h : w'.edges = w.edges) (store : Store) (target : String) :
    ((ofWorkflow w').collect store target).ordered =
      ((ofWorkflow w).collect store target).ordered := by
  rw [ordered_collect, ordered_collect, directParents_congr h]

/-- Where the edges are the same, the same nodes lead to each other. -/
theorem reaches_congr (h : w'.edges = w.edges) {a b : String} :
    (ofWorkflow w').Reaches a b ↔ (ofWorkflow w).Reaches a b := by
  have hedges : (ofWorkflow w').edges = (ofWorkflow w).edges := h
  exact ⟨.mono (hedges ▸ List.Subset.refl _), .mono (hedges ▸ List.Subset.refl _)⟩

/-! ## §4. Nodes. -/

variable {free : String} {before : Option String} {config : NodeConfig}

/-- A node that is added is seen by none. -/
theorem collect_addNode (hw : w.Valid) (hadd : w.addNode id before config = .ok (w', n))
    (store : Store) (hne : target ≠ id) :
    (ofWorkflow w').collect store target = (ofWorkflow w).collect store target := by
  have hw' : w'.Valid := hw.addNode hadd
  obtain ⟨hnew, hn, hresult⟩ := addNode_eq_ok_iff.1 hadd
  have hedges : w'.edges = w.edges := by rw [hresult]
  have hnodes : w'.nodes = w.nodes ++ [n] := by rw [hresult]
  have hid : n.id = id := by rw [hn]
  refine Context.ext_parts (ordered_collect_congr hedges store target) fun k => ?_
  ext v
  rw [get?_named_collect_iff hw', get?_named_collect_iff hw]
  constructor
  · intro h
    obtain ⟨m, hm, hmne, hreach, hname, hv⟩ := h
    rw [reaches_congr hedges] at hreach
    rw [hnodes] at hm
    rcases List.mem_append.1 hm with hm | hm
    · exact ⟨m, hm, hmne, hreach, hname, hv⟩
    · -- the new node leads to no other, since no edge leaves it
      rw [List.mem_singleton.1 hm, hid] at hreach
      obtain ⟨e, he, hsource⟩ := hreach.exists_out hne.symm
      obtain ⟨s, hs, hsid⟩ := hw.sources e he
      exact absurd (hsid.trans hsource) (hnew s hs)
  · intro h
    obtain ⟨m, hm, hmne, hreach, hname, hv⟩ := h
    refine ⟨m, ?_, hmne, (reaches_congr hedges).2 hreach, hname, hv⟩
    rw [hnodes]
    exact List.mem_append_left _ hm

/-- A node that is added sees nothing. -/
theorem collect_new (hw : w.Valid) (hadd : w.addNode id before config = .ok (w', n))
    (store : Store) : (ofWorkflow w').collect store id = {} := by
  have hw' : w'.Valid := hw.addNode hadd
  obtain ⟨hnew, -, hresult⟩ := addNode_eq_ok_iff.1 hadd
  have hedges : w'.edges = w.edges := by rw [hresult]
  have hnoedge : ∀ e ∈ w'.edges, e.target ≠ id := by
    intro e he htarget
    rw [hedges] at he
    obtain ⟨t, ht, htid⟩ := hw.targets e he
    exact hnew t ht (htid.trans htarget)
  refine Context.ext_parts ?_ fun k => ?_
  · have hnone : w'.directParents id = [] := by
      rw [List.eq_nil_iff_forall_not_mem]
      intro p hp
      obtain ⟨_, e, he, htarget, _⟩ := mem_directParents_iff.1 hp
      exact hnoedge e he htarget
    rw [ordered_collect, hnone]
    rfl
  · show _ = none
    rw [Option.eq_none_iff_forall_ne_some]
    intro v hv
    obtain ⟨m, _, hmne, hreach, _⟩ := (get?_named_collect_iff hw').1 hv
    obtain ⟨e, he, htarget⟩ := hreach.exists_in hmne
    exact hnoedge e he htarget

/-- A node that is renamed takes what is bound to its name along. -/
theorem get?_named_renameNode (hw : w.Valid) (hrename : w.renameNode id name = .ok (w', free))
    (hn : n ∈ w.nodes) (hid : n.id = id) (store : Store) (target k : String) :
    ((ofWorkflow w').collect store target).named.get? k =
      if k = free then ((ofWorkflow w).collect store target).named.get? n.name
      else if k = n.name then none
      else ((ofWorkflow w).collect store target).named.get? k := by
  have hw' : w'.Valid := hw.renameNode hrename
  obtain ⟨-, -, hresult⟩ := renameNode_eq_ok_iff.1 hrename
  have hedges : w'.edges = w.edges := by rw [hresult]
  have hnodes : w'.nodes = w.nodes.map (named id free) := by
    rw [hresult]
    exact setName_eq_map id free hw.ids
  have hkept : ∀ m : Node, m.id ≠ id → named id free m = m := fun m hm => if_neg hm
  by_cases hk : k = free
  · -- the node leads where it led, under its new name
    rw [if_pos hk]
    have hmem : named id free n ∈ w'.nodes := hnodes ▸ List.mem_map_of_mem hn
    have hname : k = (named id free n).name := by rw [name_named, if_pos hid, hk]
    ext v
    rw [hname, get?_name_collect_iff hw' hmem, get?_name_collect_iff hw hn, id_named,
      reaches_congr hedges]
  · rw [if_neg hk]
    by_cases hold : k = n.name
    · -- the old name is no longer anyone's
      rw [if_pos hold]
      refine get?_named_collect_eq_none hw' store target fun m' hm' hname => ?_
      obtain ⟨m, hm, rfl⟩ := List.mem_map.1 (hnodes ▸ hm')
      by_cases hmid : m.id = id
      · rw [name_named, if_pos hmid] at hname
        exact hk hname.symm
      · rw [hkept m hmid] at hname
        have hsame : m = n := List.inj_on_of_nodup_map hw.names hm hn (hname.trans hold)
        exact hmid (hsame ▸ hid)
    · -- the nodes with other names are the same
      rw [if_neg hold]
      ext v
      rw [get?_named_collect_iff hw', get?_named_collect_iff hw]
      constructor
      · intro h
        obtain ⟨m', hm', hne, hreach, hname, hv⟩ := h
        obtain ⟨m, hm, rfl⟩ := List.mem_map.1 (hnodes ▸ hm')
        have hmid : m.id ≠ id := by
          intro hmid
          rw [name_named, if_pos hmid] at hname
          exact hk hname.symm
        rw [hkept m hmid] at hne hreach hname hv
        exact ⟨m, hm, hne, (reaches_congr hedges).1 hreach, hname, hv⟩
      · intro h
        obtain ⟨m, hm, hne, hreach, hname, hv⟩ := h
        have hmid : m.id ≠ id := by
          intro hmid
          have hsame : m = n := List.inj_on_of_nodup_map hw.ids hm hn (hmid.trans hid.symm)
          exact hold (hname.symm.trans (congrArg Node.name hsame))
        refine ⟨m, ?_, hne, (reaches_congr hedges).2 hreach, hname, hv⟩
        rw [hnodes, ← hkept m hmid]
        exact List.mem_map_of_mem hm

/-! ## §5. Edges. -/

/-- An edge that is added puts its source behind the parents of its target,
if it is a new one. -/
theorem ordered_addEdge (hadd : w.addEdge e = .ok (w', true)) (store : Store) :
    ((ofWorkflow w').collect store e.target).ordered =
      ((ofWorkflow w).collect store e.target).ordered ++
        if e.source = e.target ∨ e.source ∈ w.directParents e.target then []
        else (store.output? e.source).toList := by
  have hedges : w'.edges = w.edges ++ [e] := edges_of_addEdge hadd
  rw [ordered_collect, ordered_collect, directParents_append hedges, List.filterMap_append]
  congr 1
  split
  · rfl
  · cases h : store.output? e.source <;> simp [h]

theorem ordered_addEdge_of_ne (hadd : w.addEdge e = .ok (w', true)) (store : Store)
    (h : e.target ≠ target) :
    ((ofWorkflow w').collect store target).ordered =
      ((ofWorkflow w).collect store target).ordered := by
  rw [ordered_collect, ordered_collect, directParents_append_of_ne h (edges_of_addEdge hadd)]

/-- An edge that is added lets its target, and what that leads to, see the
nodes that lead to its source. -/
theorem get?_named_addEdge_iff (hw : w.Valid) (hadd : w.addEdge e = .ok (w', true)) {store : Store}
    {k : String} :
    ((ofWorkflow w').collect store target).named.get? k = some v ↔
      ((ofWorkflow w).collect store target).named.get? k = some v ∨
        ((ofWorkflow w).Reaches e.target target ∧ ∃ n ∈ w.nodes, n.id ≠ target ∧
          (ofWorkflow w).Reaches n.id e.source ∧ n.name = k ∧ store.output? n.id = some v) := by
  rw [get?_named_collect_iff (hw.addEdge hadd), get?_named_collect_iff hw, nodes_of_addEdge hadd]
  constructor
  · intro h
    obtain ⟨n, hn, hne, hreach, hname, hv⟩ := h
    rcases (reaches_append_iff (edges_of_addEdge hadd)).1 hreach with hold | ⟨hin, hout⟩
    · exact .inl ⟨n, hn, hne, hold, hname, hv⟩
    · exact .inr ⟨hout, n, hn, hne, hin, hname, hv⟩
  · intro h
    rcases h with ⟨n, hn, hne, hold, hname, hv⟩ | ⟨hout, n, hn, hne, hin, hname, hv⟩
    · exact ⟨n, hn, hne, (reaches_append_iff (edges_of_addEdge hadd)).2 (.inl hold), hname, hv⟩
    · exact ⟨n, hn, hne, (reaches_append_iff (edges_of_addEdge hadd)).2 (.inr ⟨hin, hout⟩),
        hname, hv⟩

/-! ## §6. Removal. -/

/-- What was seen of a node goes with it from its place, and from no other. -/
theorem ordered_removeNode (hremove : w.removeNode id = .ok (w', n)) (store : Store)
    (hne : target ≠ id) :
    ((ofWorkflow w').collect (store.clear id) target).ordered =
      ((w.directParents target).erase id).filterMap store.output? := by
  have hedges : w'.edges = w.edges.filter fun e => e.source ≠ id && e.target ≠ id := by
    rw [(removeNode_eq_ok_iff.1 hremove).2]
  rw [ordered_collect, directParents_without hne hedges]
  refine List.filterMap_congr fun p hp => ?_
  have hpne : p ≠ id := ((nodup_directParents w target).mem_erase_iff.1 hp).1
  rw [Store.output?_clear, if_neg hpne]

/-- What is seen by name after a removal was seen before. -/
theorem get?_named_removeNode (hw : w.Valid) (hremove : w.removeNode id = .ok (w', n))
    {store : Store} {k : String}
    (hv : ((ofWorkflow w').collect (store.clear id) target).named.get? k = some v) :
    ((ofWorkflow w).collect store target).named.get? k = some v ∧ k ≠ n.name := by
  have hw' : w'.Valid := hw.removeNode hremove
  obtain ⟨hn, hresult⟩ := removeNode_eq_ok_iff.1 hremove
  obtain ⟨hn, hid⟩ := mem_of_node?_eq_some hn
  have hnodes : w'.nodes ⊆ w.nodes := by
    rw [hresult]
    exact (List.eraseP_sublist (p := fun m : Node => m.id = id)).subset
  have hfewer : (ofWorkflow w').edges ⊆ (ofWorkflow w).edges := by
    show w'.edges ⊆ w.edges
    rw [hresult]
    exact List.filter_subset_self _
  obtain ⟨m, hm, hne, hreach, hname, hout⟩ := (get?_named_collect_iff hw').1 hv
  rw [Store.output?_clear] at hout
  -- of the node itself no output is left
  by_cases hmid : m.id = id
  · rw [if_pos hmid] at hout
    cases hout
  · rw [if_neg hmid] at hout
    refine ⟨(get?_named_collect_iff hw).2 ⟨m, hnodes hm, hne, hreach.mono hfewer, hname, hout⟩, ?_⟩
    intro hk
    have hsame : m = n := List.inj_on_of_nodup_map hw.names (hnodes hm) hn (hname.trans hk)
    exact hmid (hsame ▸ hid)

/-! ## §7. The theorem. -/

/-- **What the other nodes see after an edit.**

* A node that is added changes nothing for the others, and sees nothing.
* A node that is renamed stays in its place, and its binding moves to the new
  name; nothing else is bound or unbound.
* An edge that is added changes positions for its target alone, where the
  output of its source comes last if the source is a new parent; every name
  keeps what it is bound to, and names of nodes that lead to the source are
  bound where the target leads.
* A node that is removed, with its state, leaves the ordered outputs of the
  others while the rest keep their order, and its name is bound no more; what
  stays bound was bound before. -/
theorem collect_after_edit (w : Workflow) (h : w.validate = .ok ()) (store : Store) :
    (∀ id before config w' n, w.addNode id before config = .ok (w', n) →
      (∀ target, target ≠ id →
        (ofWorkflow w').collect store target = (ofWorkflow w).collect store target) ∧
      (ofWorkflow w').collect store id = {}) ∧
    (∀ id name w' free, w.renameNode id name = .ok (w', free) →
      ∃ n, w.node? id = some n ∧ ∀ target,
        let u := (ofWorkflow w).collect store target
        let u' := (ofWorkflow w').collect store target
        u'.ordered = u.ordered ∧
        ∀ k, u'.named.get? k =
          if k = free then u.named.get? n.name else if k = n.name then none else u.named.get? k) ∧
    (∀ e w', w.addEdge e = .ok (w', true) → ∀ target,
      let u := (ofWorkflow w).collect store target
      let u' := (ofWorkflow w').collect store target
      (target ≠ e.target → u'.ordered = u.ordered) ∧
      (target = e.target → u'.ordered = u.ordered ++
        if e.source = target ∨ e.source ∈ w.directParents target then []
        else (store.output? e.source).toList) ∧
      ∀ k v, u'.named.get? k = some v ↔ u.named.get? k = some v ∨
        ((ofWorkflow w).Reaches e.target target ∧ ∃ n ∈ w.nodes, n.id ≠ target ∧
          (ofWorkflow w).Reaches n.id e.source ∧ n.name = k ∧ store.output? n.id = some v)) ∧
    (∀ id w' n, w.removeNode id = .ok (w', n) → ∀ target, target ≠ id →
      let u := (ofWorkflow w).collect store target
      let u' := (ofWorkflow w').collect (store.clear id) target
      u.ordered = (w.directParents target).filterMap store.output? ∧
      u'.ordered = ((w.directParents target).erase id).filterMap store.output? ∧
      (∀ k v, u'.named.get? k = some v → u.named.get? k = some v) ∧
      u'.named.get? n.name = none) := by
  have hw : w.Valid := (Workflow.validate_eq_ok_iff w).1 h
  refine ⟨?_, ?_, ?_, ?_⟩
  · intro id before config w' n hadd
    exact ⟨fun target hne => collect_addNode hw hadd store hne, collect_new hw hadd store⟩
  · intro id name w' free hrename
    obtain ⟨hhas, -, hresult⟩ := renameNode_eq_ok_iff.1 hrename
    have hedges : w'.edges = w.edges := by rw [hresult]
    obtain ⟨n, hfind⟩ := Option.isSome_iff_exists.1 (isSome_node?_iff.2 hhas)
    obtain ⟨hn, hid⟩ := mem_of_node?_eq_some hfind
    exact ⟨n, hfind, fun target => ⟨ordered_collect_congr hedges store target,
      get?_named_renameNode hw hrename hn hid store target⟩⟩
  · intro e w' hadd target u u'
    refine ⟨?_, ?_, fun k v => get?_named_addEdge_iff hw hadd⟩
    · intro hne
      exact ordered_addEdge_of_ne hadd store hne.symm
    · intro htarget
      subst htarget
      exact ordered_addEdge hadd store
  · intro id w' n hremove target hne u u'
    refine ⟨ordered_collect w store target, ordered_removeNode hremove store hne,
      fun k v hv => (get?_named_removeNode hw hremove hv).1, ?_⟩
    rw [Option.eq_none_iff_forall_ne_some]
    intro v hv
    exact (get?_named_removeNode hw hremove hv).2 rfl

/-- On a cycle: a node is added, another renamed, a shortcut drawn, and a
node removed. -/
theorem collect_after_edits_of_a_cycle :
    let w : Workflow :=
      { nodes := [⟨"a", "A", .manual⟩, ⟨"b", "B", .manual⟩, ⟨"c", "C", .manual⟩]
        edges := [.connect "a" "b" none, .connect "b" "c" none, .connect "c" "a" none] }
    let store := ((Store.seed {} "a" (.bool true)).seed "b" (.bool false)).seed "c" .null
    ∃ w₁ w₂ w₃ w₄ n m, w.validate = .ok () ∧
      (w.addNode "d" none .manual = .ok (w₁, n) ∧
        (ofWorkflow w₁).collect store "c" = (ofWorkflow w).collect store "c") ∧
      (w.renameNode "a" "Start" = .ok (w₂, "Start") ∧
        ((ofWorkflow w).collect store "c").named.contains "A" = true ∧
        ((ofWorkflow w₂).collect store "c").named.get? "Start" =
          ((ofWorkflow w).collect store "c").named.get? "A") ∧
      (w.addEdge (.connect "a" "c" none) = .ok (w₃, true) ∧
        ((ofWorkflow w₃).collect store "c").ordered =
          ((ofWorkflow w).collect store "c").ordered ++ [.bool true]) ∧
      w.removeNode "b" = .ok (w₄, m) ∧
        ((ofWorkflow w₄).collect (store.clear "b") "c").ordered = [] := by
  intro w store
  have h : w.validate = .ok () := by decide
  obtain ⟨hadd, hrename, hedge, hremove⟩ := collect_after_edit w h store
  obtain ⟨⟨w₁, n⟩, h₁⟩ : ∃ r, w.addNode "d" none .manual = .ok r := ⟨_, rfl⟩
  obtain ⟨w₂, h₂⟩ : ∃ w', w.renameNode "a" "Start" = .ok (w', "Start") := ⟨_, rfl⟩
  obtain ⟨w₃, h₃⟩ : ∃ w', w.addEdge (.connect "a" "c" none) = .ok (w', true) := ⟨_, rfl⟩
  obtain ⟨⟨w₄, m⟩, h₄⟩ : ∃ r, w.removeNode "b" = .ok r := ⟨_, rfl⟩
  refine ⟨w₁, w₂, w₃, w₄, n, m, h, ⟨h₁, ?_⟩, ⟨h₂, by decide +kernel, ?_⟩, ⟨h₃, ?_⟩,
    h₄, ?_⟩
  · exact (hadd _ _ _ _ _ h₁).1 "c" (by decide)
  · obtain ⟨a, ha, hseen⟩ := hrename _ _ _ _ h₂
    obtain rfl : ⟨"a", "A", .manual⟩ = a := Option.some.inj ha
    rw [(hseen "c").2 "Start", if_pos rfl]
  · have hnew : ¬ ("a" = "c" ∨ "a" ∈ w.directParents "c") := by decide +kernel
    rw [(hedge _ _ h₃ "c").2.1 rfl]
    exact congrArg _ (if_neg hnew)
  · exact (hremove _ _ _ h₄ "c" (by decide)).2.1.trans rfl

end FlowGraph

end FlowBench
