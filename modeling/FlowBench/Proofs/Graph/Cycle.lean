/-
  FlowBench.Proofs.Graph.Cycle
  ────────────────────────────
  **A cycle is found exactly where there is one.**

  `Explores` is the depth-first search without a bound on its depth.  A path
  repeats no node, so a bound on the nodes that edges lead to bounds how deep
  it gets, and `cycle?` comes to what the search comes to
  (`explores_foldlM_turn`).  What it comes to is told from the search by
  induction on its turns:

    • the path is one along edges, latest node first, so that an edge back to
      it closes a cycle (`Explores.isCycle`),
    • the nodes it is done with are put in front of those they lead to
      (`Settled`), so that none of them lies on a cycle
      (`Settled.not_reaches`).
-/
import Mathlib.Data.List.Chain
import FlowBench.Graph.Cycle
import FlowBench.Proofs.Graph.Path

namespace FlowBench.FlowGraph

/-! ## §1. The search and its bound. -/

/-- The nodes that edges lead to from a node. -/
def heads (g : FlowGraph) (x : String) : List String := (g.children x).map Edge.target

/-- What a search comes to from the end of a path on (its latest node first),
given the nodes still to go to from there and those it is done with, when
nothing bounds how deep it gets: a cycle, or the nodes it is then done
with. -/
inductive Explores (next : String → List String) :
    List String → List String → List String → Except (List String) (List String) → Prop where
  | stop (path done : List String) : Explores next path [] done (.ok done)
  | closes {path rest done : List String} {x : String} (hpath : x ∈ path) :
      Explores next path (x :: rest) done (.error (closedBy path x))
  | skips {path rest done : List String} {x : String} {r : Except (List String) (List String)}
      (hpath : x ∉ path) (hdone : x ∈ done) (hrest : Explores next path rest done r) :
      Explores next path (x :: rest) done r
  | fails {path rest done c : List String} {x : String}
      (hpath : x ∉ path) (hdone : x ∉ done)
      (hdeep : Explores next (x :: path) (next x) done (.error c)) :
      Explores next path (x :: rest) done (.error c)
  | enters {path rest done more : List String} {x : String}
      {r : Except (List String) (List String)}
      (hpath : x ∉ path) (hdone : x ∉ done)
      (hdeep : Explores next (x :: path) (next x) done (.ok more))
      (hrest : Explores next path rest (x :: more) r) :
      Explores next path (x :: rest) done r

/-- What a search does about one node that it could go to. -/
def turn (g : FlowGraph) (depth : Nat) (path done : List String) (x : String) :
    Except (List String) (List String) :=
  if x ∈ path then .error (closedBy path x)
  else if x ∈ done then .ok done
  else g.visit depth path done x

variable {g : FlowGraph}

/-- A visit takes a turn with each node that the visited one leads to. -/
theorem visit_succ (depth : Nat) (path done : List String) (x : String) :
    g.visit (depth + 1) path done x =
      ((g.heads x).foldlM (g.turn depth (x :: path)) done).map (x :: ·) := by
  unfold heads
  rw [visit, List.foldlM_map]
  rfl

/-- The search for a cycle takes a turn with each node, from no path. -/
theorem cycle?_eq : g.cycle? =
    match g.ids.foldlM (g.turn (g.edges.length + 1) []) [] with
    | .error c => some c
    | .ok _ => none := by
  have hturn : (fun done id => if id ∈ done then .ok done else g.visit (g.edges.length + 1) [] done id)
      = g.turn (g.edges.length + 1) [] := by
    funext done id
    unfold turn
    rw [if_neg (List.not_mem_nil : id ∉ [])]
  rw [← hturn]
  rfl

/-- A visit comes to what the search comes to from the visited node on. -/
def VisitExplores (g : FlowGraph) (depth : Nat) (path : List String) (x : String) : Prop :=
  ∀ done, ∃ r, Explores g.heads (x :: path) (g.heads x) done r ∧
    g.visit depth path done x = r.map (x :: ·)

/-- Turns come to what the search comes to, if the visits among them do. -/
theorem explores_foldlM_turn {depth : Nat} {path nodes : List String}
    (hvisit : ∀ x ∈ nodes, x ∉ path → g.VisitExplores depth path x) (done : List String) :
    Explores g.heads path nodes done (nodes.foldlM (g.turn depth path) done) := by
  induction nodes generalizing done with
  | nil => exact .stop path done
  | cons x rest ih =>
    have hrest := fun done => ih (fun y hy => hvisit y (List.mem_cons_of_mem _ hy)) done
    rw [List.foldlM_cons]
    unfold turn
    by_cases hpath : x ∈ path
    · rw [if_pos hpath]
      exact .closes hpath
    · rw [if_neg hpath]
      by_cases hdone : x ∈ done
      · rw [if_pos hdone]
        exact .skips hpath hdone (hrest done)
      · rw [if_neg hdone]
        obtain ⟨r, hdeep, heq⟩ := hvisit x List.mem_cons_self hpath done
        rw [heq]
        -- a cycle that was met ends the turns
        cases r with
        | error c => exact .fails hpath hdone hdeep
        | ok more => exact .enters hpath hdone hdeep (hrest (x :: more))

/-- A path that repeats no node is no longer than there are nodes that edges
lead to, its start apart. -/
theorem length_le_of_dropLast_subset {pool path : List String} {x : String}
    (hnodup : (x :: path).Nodup) (hpool : (x :: path).dropLast ⊆ pool) :
    path.length ≤ pool.length := by
  have hsub : (x :: path).dropLast.Nodup := hnodup.sublist (List.dropLast_sublist _)
  have hle := (hsub.subperm hpool).length_le
  rw [List.length_dropLast, List.length_cons] at hle
  omega

/-- **The depth suffices**: on a path along edges there is depth left to go
on. -/
theorem visitExplores {pool : List String} (hpool : ∀ x, g.heads x ⊆ pool) :
    ∀ (depth : Nat) (path : List String) (x : String), (x :: path).Nodup →
      (x :: path).dropLast ⊆ pool → pool.length < path.length + depth →
        g.VisitExplores depth path x := by
  intro depth
  induction depth with
  | zero =>
    intro path x hnodup hway hdepth
    have hlength := length_le_of_dropLast_subset hnodup hway
    omega
  | succ depth ih =>
    intro path x hnodup hway hdepth done
    refine ⟨_, explores_foldlM_turn ?_ done, visit_succ depth path done x⟩
    intro y hy hnew
    refine ih (x :: path) y (List.nodup_cons.2 ⟨hnew, hnodup⟩) ?_ ?_
    · exact List.cons_subset.2 ⟨hpool x hy, hway⟩
    · rw [List.length_cons]
      omega

variable (w : Workflow)

theorem mem_heads_iff {x y : String} : y ∈ (ofWorkflow w).heads x ↔ (ofWorkflow w).Step x y := by
  rw [← mem_fst_forward_iff]
  unfold heads forward
  rw [List.map_map]
  rfl

/-- **The search for a cycle comes to its end.** -/
theorem exists_explores : ∃ r, Explores (ofWorkflow w).heads [] (ofWorkflow w).ids [] r ∧
    (ofWorkflow w).cycle? = match r with
      | .error c => some c
      | .ok _ => none := by
  refine ⟨_, explores_foldlM_turn ?_ [], cycle?_eq⟩
  intro x _ _
  -- a path has its start and at most one node for each edge
  have hpool : ∀ x, (ofWorkflow w).heads x ⊆ w.edges.map Edge.target := by
    intro x y hy
    obtain ⟨e, he, -, htarget⟩ := (mem_heads_iff w).1 hy
    exact List.mem_map.2 ⟨e, he, htarget⟩
  refine visitExplores hpool _ [] x (List.nodup_singleton x) (List.nil_subset _) ?_
  rw [List.length_map, List.length_nil]
  show w.edges.length < 0 + (w.edges.length + 1)
  omega

/-! ## §2. What is found. -/

/-- A list of nodes is a cycle, with its first node repeated at the end. -/
structure IsCycle (next : String → List String) (c : List String) : Prop where
  long : 2 ≤ c.length
  ends : c.head? = c.getLast?
  steps : c.IsChain fun a b => b ∈ next a
  once : c.dropLast.Nodup

variable {next : String → List String} {path nodes done : List String}
  {r : Except (List String) (List String)}

/-- A step from a path back to it closes a cycle. -/
theorem isCycle_closedBy {x : String} (hnodup : path.Nodup)
    (hway : path.IsChain fun a b => a ∈ next b) (hx : x ∈ path)
    (hback : ∀ y ∈ path.head?, x ∈ next y) : IsCycle next (closedBy path x) := by
  -- what came after `x` on the path, latest first, and what led there
  obtain ⟨late, early, rfl, hlate⟩ := List.eq_append_cons_of_mem hx
  have hall : ∀ y ∈ late, decide (y ≠ x) = true := by
    intro y hy
    rw [decide_eq_true_iff]
    rintro rfl
    exact hlate hy
  have hclosed : closedBy (late ++ x :: early) x = (late ++ [x]).reverse ++ [x] := by
    unfold closedBy
    rw [List.takeWhile_append_of_pos hall, List.takeWhile_cons_of_neg (by simp), List.append_nil,
      List.reverse_append]
    rfl
  have hsplit : late ++ x :: early = (late ++ [x]) ++ early := by simp
  rw [hsplit] at hnodup hway hback
  rw [hclosed]
  refine ⟨?_, ?_, ?_, ?_⟩
  · simp
  · rw [List.getLast?_concat, List.reverse_append]
    rfl
  · rw [List.isChain_append]
    refine ⟨List.isChain_reverse.2 hway.left_of_append, List.isChain_singleton x, ?_⟩
    intro y hy z hz
    rw [List.getLast?_reverse] at hy
    obtain rfl : x = z := by simpa using hz
    -- the latest node of the part is the latest of the path
    refine hback y ?_
    rw [List.head?_append, Option.mem_def.1 hy]
    rfl
  · rw [List.dropLast_concat]
    exact List.nodup_reverse.2 (hnodup.sublist (List.sublist_append_left _ _))

/-- **What a search meets is a cycle**, if it is on a path along edges and
goes to nodes that the latest one leads to. -/
theorem Explores.isCycle (h : Explores next path nodes done r) (hnodup : path.Nodup)
    (hway : path.IsChain fun a b => a ∈ next b)
    (hnodes : ∀ x ∈ nodes, ∀ y ∈ path.head?, x ∈ next y) {c : List String} (hr : r = .error c) :
    IsCycle next c := by
  induction h with
  | stop path done => cases hr
  | closes hpath =>
    cases hr
    exact isCycle_closedBy hnodup hway hpath (hnodes _ List.mem_cons_self)
  | skips _ _ _ ih =>
    exact ih hnodup hway (fun x hx => hnodes x (List.mem_cons_of_mem _ hx)) hr
  | fails hpath _ _ ih =>
    refine ih (List.nodup_cons.2 ⟨hpath, hnodup⟩) ?_ ?_ hr
    · exact List.isChain_cons.2 ⟨hnodes _ List.mem_cons_self, hway⟩
    · intro y hy z hz
      obtain rfl := Option.some.inj hz
      exact hy
  | enters _ _ _ _ _ ih =>
    exact ih hnodup hway (fun x hx => hnodes x (List.mem_cons_of_mem _ hx)) hr

/-! ## §3. What is ruled out. -/

/-- No node is repeated, and each stands in front of those it leads to. -/
inductive Settled (next : String → List String) : List String → Prop where
  | nil : Settled next []
  | cons {x : String} {done : List String} (hnew : x ∉ done) (hnext : next x ⊆ done)
      (hdone : Settled next done) : Settled next (x :: done)

/-- No step leads out of settled nodes. -/
theorem Settled.next_subset (h : Settled next done) : ∀ x ∈ done, next x ⊆ done := by
  induction h with
  | nil =>
    intro x hx
    cases hx
  | cons _ hnext _ ih =>
    intro x hx
    obtain rfl | hx := List.mem_cons.1 hx
    · exact List.subset_cons_of_subset _ hnext
    · exact List.subset_cons_of_subset _ (ih x hx)

/-- Nor do any number of steps. -/
theorem Settled.mem_of_reaches (h : Settled next done) {a b : String} (ha : a ∈ done)
    (hreach : Relation.ReflTransGen (fun a b => b ∈ next a) a b) : b ∈ done := by
  induction hreach with
  | refl => exact ha
  | tail _ hstep ih => exact h.next_subset _ ih hstep

/-- **No settled node leads back to itself.** -/
theorem Settled.not_reaches (h : Settled next done) {x y : String} (hx : x ∈ done)
    (hy : y ∈ next x) : ¬ Relation.ReflTransGen (fun a b => b ∈ next a) y x := by
  induction h with
  | nil => cases hx
  | @cons z done hnew hnext hdone ih =>
    obtain rfl | hx := List.mem_cons.1 hx
    · -- what the latest node leads to stays among the others
      intro hreach
      exact hnew (hdone.mem_of_reaches (hnext hy) hreach)
    · exact ih hx

/-- What a search is done with stays settled, takes in the nodes that it went
to, and leaves out the path. -/
theorem Explores.settled (h : Explores next path nodes done r) (hdone : Settled next done)
    (hpath : ∀ x ∈ path, x ∉ done) {all : List String} (hr : r = .ok all) :
    Settled next all ∧ done ⊆ all ∧ nodes ⊆ all ∧ ∀ x ∈ path, x ∉ all := by
  induction h generalizing all with
  | stop path done =>
    obtain rfl := Except.ok.inj hr
    exact ⟨hdone, List.Subset.refl _, List.nil_subset _, hpath⟩
  | closes => cases hr
  | fails => cases hr
  | skips _ hknown _ ih =>
    obtain ⟨hsettled, hkeep, hrest, hleft⟩ := ih hdone hpath hr
    exact ⟨hsettled, hkeep, List.cons_subset.2 ⟨hkeep hknown, hrest⟩, hleft⟩
  | @enters path rest done more x r hnew hopen _ _ ihdeep ihrest =>
    -- below `x` the path is longer by `x`, which is therefore left out there
    have hlonger : ∀ y ∈ x :: path, y ∉ done := List.forall_mem_cons.2 ⟨hopen, hpath⟩
    obtain ⟨hmore, hkeep, hnext, hleft⟩ := ihdeep hdone hlonger rfl
    have hx : x ∉ more := hleft x List.mem_cons_self
    have hclear : ∀ y ∈ path, y ∉ x :: more := by
      intro y hy hmem
      obtain rfl | hmem := List.mem_cons.1 hmem
      · exact hnew hy
      · exact hleft y (List.mem_cons_of_mem _ hy) hmem
    obtain ⟨hsettled, hkeep', hrest, hleft'⟩ := ihrest (.cons hx hnext hmore) hclear hr
    refine ⟨hsettled, ?_, ?_, hleft'⟩
    · exact List.Subset.trans hkeep (List.cons_subset.1 hkeep').2
    · exact List.cons_subset.2 ⟨(List.cons_subset.1 hkeep').1, hrest⟩

/-! ## §4. The theorem. -/

/-- Steps to heads are steps along edges. -/
theorem step_heads : (fun a b => b ∈ (ofWorkflow w).heads a) = (ofWorkflow w).Step := by
  funext a b
  exact propext (mem_heads_iff w)

/-- A cycle runs along an edge whose target leads back to its source. -/
theorem IsCycle.exists_edge {c : List String} (h : IsCycle (ofWorkflow w).heads c) :
    ∃ e ∈ (ofWorkflow w).edges, (ofWorkflow w).hasPath e.target e.source = true := by
  obtain ⟨hlong, hends, hsteps, -⟩ := h
  rw [step_heads] at hsteps
  match c, hlong with
  | a :: b :: rest, _ =>
    obtain ⟨hfirst, hothers⟩ := List.isChain_cons_cons.1 hsteps
    obtain ⟨e, he, hsource, htarget⟩ := hfirst
    refine ⟨e, he, ?_⟩
    rw [hasPath_iff, reaches_iff, hsource, htarget]
    -- the other steps lead on to the last node, which is the first
    have hlast : (b :: rest).getLast (List.cons_ne_nil b rest) = a := by
      rw [List.getLast?_cons_cons, List.getLast?_eq_some_getLast (List.cons_ne_nil b rest)] at hends
      exact (Option.some.inj hends).symm
    exact List.relationReflTransGen_of_exists_isChain_cons rest hothers hlast

/-- **The search for a cycle is exact.**  Its turns come to an end.  It finds
nothing exactly when no edge has a path from its target back to its source.
What it finds has at least two entries, the first and the last of which are
equal, goes along edges, and repeats no other entry.  A path is what `hasPath`
says it is: a node leads to itself and to whatever can be reached from it
along edges. -/
theorem cycle_exact (h : w.validate = .ok ()) :
    let g := ofWorkflow w
    (∃ r, Explores g.heads [] g.ids [] r ∧ g.cycle? = match r with
      | .error c => some c
      | .ok _ => none) ∧
    (g.cycle? = none ↔ ∀ e ∈ g.edges, g.hasPath e.target e.source = false) ∧
    (∀ c, g.cycle? = some c →
      2 ≤ c.length ∧ c.head? = c.getLast? ∧ c.IsChain g.Step ∧ c.dropLast.Nodup) ∧
    ∀ a b, g.hasPath a b = true ↔ a = b ∨ Relation.TransGen g.Step a b := by
  intro g
  have hw : w.Valid := (Workflow.validate_eq_ok_iff w).1 h
  obtain ⟨r, hexplores, hcycle⟩ := exists_explores w
  have hfound : ∀ c, g.cycle? = some c → IsCycle g.heads c := by
    intro c hc
    rw [hcycle] at hc
    cases r with
    | ok all => cases hc
    | error c' =>
      obtain rfl := Option.some.inj hc
      exact hexplores.isCycle List.nodup_nil List.isChain_nil (by simp) rfl
  refine ⟨⟨r, hexplores, hcycle⟩, ?_, ?_, ?_⟩
  · constructor
    · intro hnone e he
      rw [hcycle] at hnone
      cases r with
      | error c => cases hnone
      | ok all =>
        obtain ⟨hsettled, -, hids, -⟩ := hexplores.settled .nil (by simp) rfl
        -- every edge starts at a node, and the search went to every node
        have hsource : e.source ∈ all := by
          obtain ⟨n, hn, hid⟩ := hw.sources e he
          exact hids (hid ▸ List.mem_map_of_mem hn)
        have hhead : e.target ∈ g.heads e.source := (mem_heads_iff w).2 ⟨e, he, rfl, rfl⟩
        have hnot := hsettled.not_reaches hsource hhead
        rw [step_heads, ← reaches_iff, ← hasPath_iff] at hnot
        exact Bool.eq_false_iff.2 hnot
    · intro hall
      cases hc : g.cycle? with
      | none => rfl
      | some c =>
        obtain ⟨e, he, hpath⟩ := (hfound c hc).exists_edge
        rw [hall e he] at hpath
        cases hpath
  · intro c hc
    obtain ⟨hlong, hends, hsteps, honce⟩ := hfound c hc
    rw [step_heads] at hsteps
    exact ⟨hlong, hends, hsteps, honce⟩
  · intro a b
    rw [hasPath_iff, reaches_iff, Relation.reflTransGen_iff_eq_or_transGen, eq_comm]

/-- A search that starts in front of a cycle leaves out the way in. -/
theorem cycle_behind_a_way_in :
    let w : Workflow :=
      { nodes := [⟨"a", "A", .manual⟩, ⟨"b", "B", .manual⟩, ⟨"c", "C", .manual⟩, ⟨"d", "D", .manual⟩]
        edges := [.connect "a" "b" none, .connect "a" "c" none, .connect "c" "b" none,
          .connect "c" "d" none, .connect "d" "c" none] }
    w.validate = .ok () ∧ (ofWorkflow w).cycle? = some ["c", "d", "c"] ∧
      ["c", "d", "c"].IsChain (ofWorkflow w).Step ∧
      ¬ ∀ e ∈ (ofWorkflow w).edges, (ofWorkflow w).hasPath e.target e.source = false := by
  intro w
  have h : w.validate = .ok () := by decide +kernel
  have hcycle : (ofWorkflow w).cycle? = some ["c", "d", "c"] := by decide +kernel
  obtain ⟨-, hnone, hfound, -⟩ := cycle_exact w h
  obtain ⟨-, -, hsteps, -⟩ := hfound _ hcycle
  refine ⟨h, hcycle, hsteps, fun hall => ?_⟩
  rw [hnone.2 hall] at hcycle
  cases hcycle

end FlowBench.FlowGraph
