/-
  FlowBench.Proofs.Graph.Path
  ───────────────────────────
  **A path is found forwards where one is walked backwards.**

  Whether one node leads to another is answered by a search along the edges;
  what a node sees is collected by a search against them.  Both speak of the
  same relation, `Reaches`.
-/
import FlowBench.Proofs.Graph.Index
import FlowBench.Proofs.Graph.Search
import FlowBench.Graph.Search

namespace FlowBench.FlowGraph

/-- The neighbours that a search forwards goes to. -/
def forward (g : FlowGraph) (x : String) : List (String × Edge) :=
  (g.children x).map fun e => (e.target, e)

variable (w : Workflow)

theorem mem_fst_forward_iff {x y : String} :
    y ∈ ((ofWorkflow w).forward x).map Prod.fst ↔ (ofWorkflow w).Step x y := by
  unfold forward
  rw [children_ofWorkflow, List.map_map, List.mem_map]
  constructor
  · rintro ⟨e, he, rfl⟩
    obtain ⟨he, hsource⟩ := List.mem_filter.1 he
    exact ⟨e, he, of_decide_eq_true hsource, rfl⟩
  · rintro ⟨e, he, hsource, htarget⟩
    exact ⟨e, List.mem_filter.2 ⟨he, decide_eq_true hsource⟩, htarget⟩

/-- To be led to forwards is to be reached. -/
theorem leads_forward_iff {start x : String} :
    Search.Leads (ofWorkflow w).forward start x ↔ (ofWorkflow w).Reaches start x := by
  have hstep : (fun a b => b ∈ ((ofWorkflow w).forward a).map Prod.fst) = (ofWorkflow w).Step := by
    funext a b
    exact propext (mem_fst_forward_iff w)
  unfold Search.Leads
  rw [hstep, reaches_iff]

theorem mem_descendants_iff {start x : String} :
    x ∈ (ofWorkflow w).descendants start ↔ x ≠ start ∧ (ofWorkflow w).Reaches start x := by
  have hnext : ∀ x, ∀ y ∈ ((ofWorkflow w).forward x).map Prod.fst,
      y ∈ w.edges.map Edge.target := by
    intro x y hy
    obtain ⟨e, he, _, htarget⟩ := (mem_fst_forward_iff w).1 hy
    exact List.mem_map.2 ⟨e, he, htarget⟩
  have hfinds := Search.finds_search_start (w.edges.map Edge.target) hnext start
  rw [List.length_map] at hfinds
  rw [← leads_forward_iff]
  exact hfinds.mem_iff

/-- **A path is found exactly where one node leads to the other.** -/
theorem hasPath_iff {source target : String} :
    (ofWorkflow w).hasPath source target = true ↔ (ofWorkflow w).Reaches source target := by
  unfold hasPath
  rw [Bool.or_eq_true, decide_eq_true_eq, List.contains_iff_mem, mem_descendants_iff]
  constructor
  · rintro (rfl | ⟨-, hreach⟩)
    · exact .refl source
    · exact hreach
  · intro hreach
    by_cases heq : source = target
    · exact .inl heq
    · exact .inr ⟨fun h => heq h.symm, hreach⟩

end FlowBench.FlowGraph
