/-
  FlowBench.Proofs.Graph.Index
  ────────────────────────────
  **The index says what the workflow says.**

  The edges at a node are the edges of the workflow at it, in their order;
  a node is found in the index as it is in the workflow.
-/
import Mathlib.Logic.Relation
import FlowBench.Proofs.Table
import FlowBench.Proofs.Workflow.Validity
import FlowBench.Graph.Index

namespace FlowBench.FlowGraph

/-! ## §1. Edges at a node. -/

/-- The list under a key, empty where there is none. -/
theorem getD_append (t : Table (List Edge)) (key k : String) (e : Edge) :
    ((append t key e).get? k).getD [] =
      (t.get? k).getD [] ++ if key = k then [e] else [] := by
  unfold append
  rw [Table.get?_insert]
  by_cases hk : k = key
  · rw [if_pos hk, if_pos hk.symm, hk]
    rfl
  · rw [if_neg hk, if_neg (fun h => hk h.symm), List.append_nil]

/-- Each key collects the edges with it, in order. -/
theorem getD_foldl_append (key : Edge → String) (k : String) :
    ∀ (es : List Edge) (t : Table (List Edge)),
      ((es.foldl (fun t e => append t (key e) e) t).get? k).getD [] =
        (t.get? k).getD [] ++ es.filter fun e => key e = k
  | [], t => by simp
  | e :: rest, t => by
    rw [List.foldl_cons, getD_foldl_append key k rest, getD_append, List.append_assoc,
      List.filter_cons]
    by_cases hk : key e = k <;> simp [hk]

/-- The empty list stands under every node at first. -/
theorem getD_foldl_insert_nil (k : String) : ∀ (ns : List Node) (t : Table (List Edge)),
    (t.get? k).getD [] = [] →
      ((ns.foldl (fun t n => t.insert n.id []) t).get? k).getD [] = []
  | [], _, h => h
  | n :: rest, t, h => by
    refine getD_foldl_insert_nil k rest _ ?_
    rw [Table.get?_insert]
    split
    · rfl
    · exact h

variable (w : Workflow)

/-- An index by one end of the edges gives the edges with that end. -/
theorem getD_index (key : Edge → String) (k : String) :
    ((w.edges.foldl (fun t e => append t (key e) e)
      (w.nodes.foldl (fun t n => t.insert n.id []) Table.empty)).get? k).getD [] =
        w.edges.filter fun e => key e = k := by
  rw [getD_foldl_append, getD_foldl_insert_nil k _ _ rfl, List.nil_append]

theorem parents_ofWorkflow (id : String) :
    (ofWorkflow w).parents id = w.edges.filter fun e => e.target = id :=
  getD_index w Edge.target id

theorem children_ofWorkflow (id : String) :
    (ofWorkflow w).children id = w.edges.filter fun e => e.source = id :=
  getD_index w Edge.source id

/-! ## §2. Nodes. -/

variable {w}

/-- A node is found under its own id, even where ids are repeated. -/
theorem id_of_node?_ofWorkflow {id : String} {n : Node} (h : (ofWorkflow w).node? id = some n) :
    n.id = id := by
  have hkept : ∀ (ns : List Node) (t : Table Node), (∀ m, t.get? id = some m → m.id = id) →
      (ns.foldl (fun t n => t.insert n.id n) t).get? id = some n → n.id = id := by
    intro ns
    induction ns with
    | nil => exact fun t ht hn => ht n hn
    | cons m rest ih =>
      refine fun t ht => ih _ fun x hx => ?_
      rw [Table.get?_insert] at hx
      split at hx
      · next heq => exact Option.some.inj hx ▸ heq.symm
      · exact ht x hx
  exact hkept w.nodes Table.empty (fun m hm => by cases hm) h

/-- A node of the index is the node of the workflow. -/
theorem node?_ofWorkflow (hids : (w.nodes.map Node.id).Nodup) (id : String) :
    (ofWorkflow w).node? id = w.node? id := by
  have hkeys : (w.nodes.map fun n => (n.id, n)).map Prod.fst = w.nodes.map Node.id := by
    rw [List.map_map]
    rfl
  have hinsert : (ofWorkflow w).byId =
      (w.nodes.map fun n => (n.id, n)).foldl (fun t e => t.insert e.1 e.2) Table.empty := by
    rw [List.foldl_map]
    rfl
  unfold FlowGraph.node?
  rw [hinsert, Table.get?_foldl_insert id _ (hkeys ▸ hids)]
  show (Entries.get? id _).or none = _
  rw [Option.or_none]
  ext n
  rw [Entries.get?_eq_some_iff (hkeys ▸ hids), Workflow.node?_eq_some_iff hids, List.mem_map]
  constructor
  · rintro ⟨m, hm, heq⟩
    cases heq
    exact ⟨hm, rfl⟩
  · rintro ⟨hn, rfl⟩
    exact ⟨n, hn, rfl⟩

/-- The nodes of the index are those of the workflow, in order. -/
theorem nodes_ofWorkflow (hids : (w.nodes.map Node.id).Nodup) : (ofWorkflow w).nodes = w.nodes := by
  show (w.nodes.map Node.id).filterMap (ofWorkflow w).node? = w.nodes
  rw [List.filterMap_map]
  have hself : ∀ n ∈ w.nodes, ((ofWorkflow w).node? ∘ Node.id) n = some n := by
    intro n hn
    rw [Function.comp_apply, node?_ofWorkflow hids, Workflow.node?_eq_some_iff hids]
    exact ⟨hn, rfl⟩
  rw [List.filterMap_congr hself, List.filterMap_some]

theorem contains_ofWorkflow_iff (hids : (w.nodes.map Node.id).Nodup) {id : String} :
    (ofWorkflow w).contains id = true ↔ w.Has id := by
  unfold contains
  rw [node?_ofWorkflow hids, Workflow.isSome_node?_iff]

/-! ## §3. Reaching. -/

/-- To reach along edges is to take steps. -/
theorem reaches_iff {g : FlowGraph} {a b : String} :
    g.Reaches a b ↔ Relation.ReflTransGen g.Step a b := by
  constructor
  · intro h
    induction h with
    | refl => exact .refl
    | tail _ hstep ih => exact ih.tail hstep
  · intro h
    induction h with
    | refl => exact .refl _
    | tail _ hstep ih => exact ih.tail hstep

theorem Reaches.trans {g : FlowGraph} {a b c : String} (hab : g.Reaches a b)
    (hbc : g.Reaches b c) : g.Reaches a c :=
  reaches_iff.2 ((reaches_iff.1 hab).trans (reaches_iff.1 hbc))

end FlowBench.FlowGraph
