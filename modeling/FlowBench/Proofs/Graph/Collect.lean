/-
  FlowBench.Proofs.Graph.Collect
  ──────────────────────────────
  **What a node sees, told without the search.**

  The ordered outputs are those of the direct parents; the named outputs are
  those of all nodes that lead to the node.  That an ancestor counts as a
  direct parent by the edge under which it is first met is right because the
  first round of the search meets every direct parent and only those, and no
  later round comes back to the node (`ancestors_split`).
-/
import FlowBench.Proofs.Graph.Index
import FlowBench.Proofs.Graph.Search
import FlowBench.Graph.Collect

namespace FlowBench

/-- The nodes with an edge into a node, itself apart, each in the place of
its first edge. -/
def Workflow.directParents (w : Workflow) (target : String) : List String :=
  (((w.edges.filter fun e => e.target = target).map Edge.source).filter
    fun x => x ≠ target).eraseDups

namespace FlowGraph

/-! ## §1. The search backwards. -/

/-- The neighbours that a search backwards goes to. -/
def backward (g : FlowGraph) (x : String) : List (String × Edge) :=
  (g.parents x).map fun e => (e.source, e)

variable (w : Workflow)

theorem mem_backward_iff {x : String} {p : String × Edge} :
    p ∈ (ofWorkflow w).backward x ↔ p.2 ∈ w.edges ∧ p.2.target = x ∧ p.2.source = p.1 := by
  unfold backward
  rw [parents_ofWorkflow, List.mem_map]
  constructor
  · rintro ⟨e, he, rfl⟩
    simpa using he
  · rintro ⟨he, htarget, hsource⟩
    exact ⟨p.2, by simpa using ⟨he, htarget⟩, Prod.ext hsource rfl⟩

theorem mem_fst_backward_iff {x y : String} :
    y ∈ ((ofWorkflow w).backward x).map Prod.fst ↔ (ofWorkflow w).Step y x := by
  rw [List.mem_map]
  constructor
  · rintro ⟨p, hp, rfl⟩
    obtain ⟨he, htarget, hsource⟩ := (mem_backward_iff w).1 hp
    exact ⟨p.2, he, hsource, htarget⟩
  · rintro ⟨e, he, rfl, htarget⟩
    exact ⟨(e.source, e), (mem_backward_iff w).2 ⟨he, htarget, rfl⟩, rfl⟩

/-- To be led to backwards is to reach. -/
theorem leads_backward_iff {x target : String} :
    Search.Leads (ofWorkflow w).backward target x ↔ (ofWorkflow w).Reaches x target := by
  have hstep : (fun a b => b ∈ ((ofWorkflow w).backward a).map Prod.fst) =
      Function.swap (ofWorkflow w).Step := by
    funext a b
    exact propext (mem_fst_backward_iff w)
  unfold Search.Leads
  rw [hstep, reaches_iff, Relation.reflTransGen_swap]

/-- The search for ancestors comes to its end. -/
theorem finds_ancestors (target : String) :
    Search.Finds (ofWorkflow w).backward [target] [target] ((ofWorkflow w).ancestors target) := by
  have hnext : ∀ x, ∀ y ∈ ((ofWorkflow w).backward x).map Prod.fst,
      y ∈ w.edges.map Edge.source := by
    intro x y hy
    obtain ⟨e, he, hsource, _⟩ := (mem_fst_backward_iff w).1 hy
    exact List.mem_map.2 ⟨e, he, hsource⟩
  have hfinds := Search.finds_search_start (w.edges.map Edge.source) hnext target
  rwa [List.length_map] at hfinds

theorem mem_ancestors_iff {x target : String} :
    x ∈ ((ofWorkflow w).ancestors target).map Prod.fst ↔
      x ≠ target ∧ (ofWorkflow w).Reaches x target := by
  rw [(finds_ancestors w target).mem_iff, leads_backward_iff]

/-- **The direct parents come first**, by their edges into the node; by those
edges no other ancestor is met. -/
theorem ancestors_split (target : String) :
    ∃ direct further, (ofWorkflow w).ancestors target = direct ++ further ∧
      direct.map Prod.fst = w.directParents target ∧
      (∀ p ∈ direct, p.2.target = target) ∧ ∀ p ∈ further, p.2.target ≠ target := by
  obtain ⟨direct, further, hdirect, hsplit, hrest⟩ := (finds_ancestors w target).first
  refine ⟨direct, further, hsplit, ?_, ?_, ?_⟩
  · -- at first only the node itself is met, so new means other than it
    rw [hdirect, Search.fst_fresh]
    unfold backward Workflow.directParents
    rw [parents_ofWorkflow, List.map_map]
    congr 2
    funext x
    simp
  · intro p hp
    rw [hdirect] at hp
    exact ((mem_backward_iff w).1 (Search.mem_of_mem_fresh hp)).2.1
  · intro p hp heq
    obtain ⟨x, hx, hpx⟩ := hrest.label hp
    have hxtarget : x = target := ((mem_backward_iff w).1 hpx).2.1.symm.trans heq
    subst hxtarget
    -- the node itself is met from the start
    rcases hx with hx | hx
    · rw [List.nil_append, hdirect] at hx
      exact (Search.mem_fst_fresh_iff.1 hx).2 List.mem_cons_self
    · exact hrest.nodup.2 x hx (List.mem_append_right _ List.mem_cons_self)

/-! ## §2. What is collected. -/

variable (g : FlowGraph) (store : Store) (target : String)

theorem ordered_foldl_see : ∀ (met : List (String × Edge)) (u : Context),
    (met.foldl (g.see store target) u).ordered =
      u.ordered ++ ((met.filter fun p => p.2.target = target).map Prod.fst).filterMap store.output?
  | [], u => by simp
  | p :: rest, u => by
    rw [List.foldl_cons, ordered_foldl_see rest, List.filter_cons]
    unfold see
    cases hout : store.output? p.1 with
    | none => by_cases hp : p.2.target = target <;> simp [hp, hout]
    | some v => by_cases hp : p.2.target = target <;> simp [hp, hout]

/-- What an ancestor binds: its display name, to its output if it has one. -/
def binding (id : String) : Option (String × Value) :=
  (store.output? id).bind fun v => (g.node? id).map fun n => (n.name, v)

theorem named_foldl_see : ∀ (met : List (String × Edge)) (u : Context),
    (met.foldl (g.see store target) u).named =
      ((met.map Prod.fst).filterMap (g.binding store)).foldl (fun t e => t.insert e.1 e.2) u.named
  | [], _ => rfl
  | p :: rest, u => by
    rw [List.foldl_cons, named_foldl_see rest, List.map_cons, List.filterMap_cons]
    unfold see binding
    cases store.output? p.1 with
    | none => rfl
    | some v =>
      cases g.node? p.1 with
      | none => rfl
      | some n => rfl

/-- Of a store only the outputs are collected. -/
theorem collect_congr {store store' : Store}
    (h : ∀ id, store.output? id = store'.output? id) (target : String) :
    g.collect store target = g.collect store' target := by
  have hsee : g.see store target = g.see store' target := by
    funext u met
    unfold see
    rw [h]
  unfold collect
  rw [hsee]

variable {g store}

theorem binding_eq_some_iff {id name : String} {v : Value} :
    g.binding store id = some (name, v) ↔
      store.output? id = some v ∧ ∃ n, g.node? id = some n ∧ n.name = name := by
  unfold binding
  rw [Option.bind_eq_some_iff]
  constructor
  · rintro ⟨v', hv', h⟩
    obtain ⟨n, hn, heq⟩ := Option.map_eq_some_iff.1 h
    cases heq
    exact ⟨hv', n, hn, rfl⟩
  · rintro ⟨hv, n, hn, rfl⟩
    exact ⟨v, hv, by rw [hn]; rfl⟩

variable {w}

/-- Where display names are not repeated, different nodes bind different
names. -/
theorem nodup_bindings (store : Store) (hw : w.Valid) {ids : List String} (hids : ids.Nodup) :
    ((ids.filterMap ((ofWorkflow w).binding store)).map Prod.fst).Nodup := by
  rw [List.map_filterMap]
  refine hids.filterMap ?_
  intro a b name ha hb
  obtain ⟨⟨_, v⟩, hbind, rfl⟩ := Option.map_eq_some_iff.1 ha
  obtain ⟨⟨name', v'⟩, hbind', hname⟩ := Option.map_eq_some_iff.1 hb
  obtain ⟨-, n, hn, hnname⟩ := binding_eq_some_iff.1 hbind
  obtain ⟨-, m, hm, hmname⟩ := binding_eq_some_iff.1 hbind'
  rw [node?_ofWorkflow hw.ids] at hn hm
  obtain ⟨hn, hnid⟩ := Workflow.mem_of_node?_eq_some hn
  obtain ⟨hm, hmid⟩ := Workflow.mem_of_node?_eq_some hm
  -- a shared name makes the nodes the same, and with them the ids
  have hsame : n = m := by
    refine List.inj_on_of_nodup_map hw.names hn hm ?_
    rw [hnname, hmname]
    exact hname.symm
  rw [← hnid, ← hmid, hsame]

/-! ## §3. The theorem. -/

/-- The ordered outputs are those of the direct parents. -/
theorem ordered_collect (w : Workflow) (store : Store) (target : String) :
    ((ofWorkflow w).collect store target).ordered =
      (w.directParents target).filterMap store.output? := by
  obtain ⟨direct, further, hsplit, hparents, hdirect, hfurther⟩ := ancestors_split w target
  -- the test on edges keeps the first round and nothing else
  have hkept : (direct ++ further).filter (fun p => p.2.target = target) = direct := by
    rw [List.filter_append, List.filter_eq_self.2 (by simpa using hdirect),
      List.filter_eq_nil_iff.2 (by simpa using hfurther), List.append_nil]
  unfold collect
  rw [ordered_foldl_see, hsplit, hkept, hparents]
  rfl

/-- The names that are bound are those of the other nodes that lead to the
target and have an output. -/
theorem get?_named_collect_iff (hw : w.Valid) {store : Store} {target name : String} {v : Value} :
    ((ofWorkflow w).collect store target).named.get? name = some v ↔
      ∃ n ∈ w.nodes, n.id ≠ target ∧ (ofWorkflow w).Reaches n.id target ∧ n.name = name ∧
        store.output? n.id = some v := by
  have hnodup := nodup_bindings store hw (finds_ancestors w target).nodup.1
  unfold collect
  rw [named_foldl_see, Table.get?_foldl_insert name _ hnodup]
  show (Entries.get? name _).or none = some v ↔ _
  rw [Option.or_none, Entries.get?_eq_some_iff hnodup, List.mem_filterMap]
  constructor
  · rintro ⟨id, hid, hbind⟩
    obtain ⟨hv, n, hn, hname⟩ := binding_eq_some_iff.1 hbind
    rw [node?_ofWorkflow hw.ids] at hn
    obtain ⟨hmem, rfl⟩ := Workflow.mem_of_node?_eq_some hn
    obtain ⟨hne, hreach⟩ := (mem_ancestors_iff w).1 hid
    exact ⟨n, hmem, hne, hreach, hname, hv⟩
  · rintro ⟨n, hn, hne, hreach, hname, hv⟩
    refine ⟨n.id, (mem_ancestors_iff w).2 ⟨hne, hreach⟩, binding_eq_some_iff.2 ⟨hv, n, ?_, hname⟩⟩
    rw [node?_ofWorkflow hw.ids, Workflow.node?_eq_some_iff hw.ids]
    exact ⟨hn, rfl⟩

/-- **What a node sees is exactly this.**  The search goes on until its queue
is empty.  The ordered outputs are those of the direct parents that have one,
in the order of their first edges.  A name is bound to a value exactly when a
node other than the target has the name and the value as its output and leads
to the target. -/
theorem collect_exact (w : Workflow) (h : w.validate = .ok ()) (store : Store) (target : String) :
    let g := ofWorkflow w
    Search.Finds g.backward [target] [target] (g.ancestors target) ∧
      (g.collect store target).ordered = (w.directParents target).filterMap store.output? ∧
      ∀ name v, (g.collect store target).named.get? name = some v ↔
        ∃ n ∈ w.nodes, n.id ≠ target ∧ g.Reaches n.id target ∧ n.name = name ∧
          store.output? n.id = some v := by
  intro g
  have hw : w.Valid := (Workflow.validate_eq_ok_iff w).1 h
  exact ⟨finds_ancestors w target, ordered_collect w store target,
    fun _ _ => get?_named_collect_iff hw⟩

/-- On a cycle with a loop and parallel edges: the parents that were tested
are seen in the order of their first edges, `a` as one of them although it
leads to another too; the untested parent is passed over, and `d`, which
leads to it, is seen through it by name alone. -/
theorem collect_on_a_cycle :
    let w : Workflow :=
      { nodes := [⟨"a", "A", .manual⟩, ⟨"b", "B", .manual⟩, ⟨"c", "C", .manual⟩,
          ⟨"d", "D", .manual⟩, ⟨"e", "E", .manual⟩]
        edges := [.connect "c" "c" none, .connect "b" "c" none, .connect "e" "c" none,
          .connect "a" "b" none, .connect "a" "c" none, .connect "d" "e" none,
          .connect "c" "a" none, ⟨"again", "b", "c", none⟩] }
    let store := ["a", "b", "c", "d"].foldl (fun s id => s.seed id (.str id)) ({} : Store)
    w.validate = .ok () ∧
      ((ofWorkflow w).collect store "c").ordered = [.str "b", .str "a"] ∧
      ((ofWorkflow w).collect store "c").named.get? "A" = some (.str "a") ∧
      ((ofWorkflow w).collect store "c").named.get? "D" = some (.str "d") ∧
      ((ofWorkflow w).collect store "c").named.get? "C" = none ∧
      ((ofWorkflow w).collect store "c").named.get? "E" = none := by
  intro w store
  have h : w.validate = .ok () := by decide
  obtain ⟨-, hordered, hnamed⟩ := collect_exact w h store "c"
  have hnone : ∀ name, (∀ n ∈ w.nodes, n.id ≠ "c" → n.name = name → store.output? n.id = none) →
      ((ofWorkflow w).collect store "c").named.get? name = none := by
    intro name hunseen
    rw [Option.eq_none_iff_forall_ne_some]
    intro v hv
    obtain ⟨n, hn, hne, -, hname, houtput⟩ := (hnamed name v).1 hv
    rw [hunseen n hn hne hname] at houtput
    cases houtput
  refine ⟨h, hordered.trans rfl, ?_, ?_, ?_, ?_⟩
  · have hac : (ofWorkflow w).Step "a" "c" := ⟨.connect "a" "c" none, by decide, rfl, rfl⟩
    exact (hnamed "A" (.str "a")).2
      ⟨⟨"a", "A", .manual⟩, by decide, by decide, (Reaches.refl "a").tail hac, rfl, rfl⟩
  · have hde : (ofWorkflow w).Step "d" "e" := ⟨.connect "d" "e" none, by decide, rfl, rfl⟩
    have hec : (ofWorkflow w).Step "e" "c" := ⟨.connect "e" "c" none, by decide, rfl, rfl⟩
    exact (hnamed "D" (.str "d")).2
      ⟨⟨"d", "D", .manual⟩, by decide, by decide, ((Reaches.refl "d").tail hde).tail hec, rfl, rfl⟩
  · exact hnone "C" (by decide)
  · exact hnone "E" (by decide)

end FlowGraph

end FlowBench
