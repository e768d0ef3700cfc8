/-
  FlowBench.Proofs.Workflow.Building
  ──────────────────────────────────
  **What can be built edit by edit is what passes the check.**

  There are two checks of an edge: the one of `addEdge`, against the edges
  that are there, and the pass of `validate` over all of them.  On a valid
  workflow they agree: the pass comes to an edge at the end with the ids of
  all others seen and no fault found (`validate_append`), so that what it
  says is what `addEdge` says.  Nodes and edges put in one after another
  therefore build every valid workflow that keeps no outputs.
-/
import FlowBench.Proofs.Workflow.Edit

namespace FlowBench.Workflow

variable {w : Workflow} {e : Edge}

/-- The workflow after an edit, which one that fails leaves as it was, and
what the edit gave. -/
def edited {α : Type} (w : Workflow) : Except Error (Workflow × α) → Workflow × Except Error α
  | .ok (w', a) => (w', .ok a)
  | .error err => (w, .error err)

theorem edited_eq_ok_iff {α : Type} {w w' : Workflow} {r : Except Error (Workflow × α)} {a : α} :
    w.edited r = (w', .ok a) ↔ r = .ok (w', a) := by
  unfold edited
  cases r <;> simp [Prod.ext_iff]

theorem edited_eq_error_iff {α : Type} {w w' : Workflow} {r : Except Error (Workflow × α)}
    {err : Error} : w.edited r = (w', .error err) ↔ r = .error err ∧ w' = w := by
  unfold edited
  cases r <;> simp [and_comm, eq_comm]

/-! ## §1. An edge more in the check of all. -/

/-- Whether an edge fits depends on the nodes alone. -/
theorem checkEdges_edges (edges : List Edge) (seen : List String) (es : List Edge) :
    checkEdges { w with edges := edges } seen es = w.checkEdges seen es := by
  induction es generalizing seen with
  | nil => rfl
  | cons e rest ih =>
    unfold checkEdges
    rw [ih]
    rfl

/-- The pass goes on behind the edges that it has passed, with their ids
seen. -/
theorem checkEdges_append {seen : List String} {es fs : List Edge}
    (h : w.checkEdges seen es = .ok ()) :
    w.checkEdges seen (es ++ fs) = w.checkEdges ((es.map Edge.id).reverse ++ seen) fs := by
  induction es generalizing seen with
  | nil => rfl
  | cons e rest ih =>
    unfold checkEdges at h
    obtain ⟨hfits, h⟩ := then_eq_ok_iff.1 h
    by_cases hid : e.id ∈ seen
    · rw [if_pos hid] at h
      cases h
    · rw [if_neg hid] at h
      rw [List.cons_append, checkEdges, hfits]
      show (if e.id ∈ seen then _ else _) = _
      rw [if_neg hid, ih h, List.map_cons, List.reverse_cons, List.append_assoc]
      rfl

theorem checkEdges_singleton (seen : List String) :
    w.checkEdges seen [e] = (w.checkEdge e >>= fun _ =>
      if e.id ∈ seen then .error (.duplicateEdgeId e.id) else .ok ()) := by
  unfold checkEdges
  rfl

/-- **With an edge more at its end a valid workflow has the faults of that
edge.** -/
theorem validate_append (hw : w.Valid) :
    validate { w with edges := w.edges ++ [e] } =
      (w.checkEdge e >>= fun _ =>
        if e.id ∈ w.edges.map Edge.id then .error (.duplicateEdgeId e.id) else .ok ()) := by
  obtain ⟨hnodes, hrest⟩ := then_eq_ok_iff.1 ((validate_eq_ok_iff w).2 hw)
  obtain ⟨hedges, houtputs⟩ := then_eq_ok_iff.1 hrest
  have hpass : checkEdges { w with edges := w.edges ++ [e] } [] (w.edges ++ [e]) =
      (w.checkEdge e >>= fun _ =>
        if e.id ∈ w.edges.map Edge.id then .error (.duplicateEdgeId e.id) else .ok ()) := by
    rw [checkEdges_edges, checkEdges_append hedges, checkEdges_singleton]
    simp only [List.append_nil, List.mem_reverse]
  unfold validate
  rw [hpass]
  -- nodes and outputs are those of the valid workflow
  show (checkNodes [] [] w.nodes >>= fun _ => _ >>= fun _ => w.checkOutputs) = _
  rw [hnodes, houtputs]
  -- nothing is asked behind the edge, so its outcome is the whole one
  cases (w.checkEdge e >>= fun _ => _) <;> rfl

/-! ## §2. An edge more by editing. -/

/-- An edge that is there may be added again, to no effect. -/
theorem addEdge_of_mem (hw : w.Valid) (he : e ∈ w.edges) : w.addEdge e = .ok (w, false) := by
  rw [addEdge_eq_ok_iff, checkEdge_eq_ok_iff hw.ids]
  exact ⟨hw.fits he, .inl ⟨(find?_key_eq_some_iff hw.edgeIds).2 ⟨he, rfl⟩, rfl, rfl⟩⟩

/-- **Adding an edge that is not there is checking the workflow that has
it.** -/
theorem addEdge_of_not_mem (hw : w.Valid) (he : e ∉ w.edges) :
    w.addEdge e = (validate { w with edges := w.edges ++ [e] }).map fun _ =>
      ({ w with edges := w.edges ++ [e] }, true) := by
  rw [validate_append hw]
  unfold addEdge
  cases w.checkEdge e with
  | error err => rfl
  | ok u =>
    cases hfind : w.edges.find? fun f => f.id = e.id with
    | none =>
      have hnew : e.id ∉ w.edges.map Edge.id := by simpa using hfind
      show Except.ok ({ w with edges := w.edges ++ [e] }, true) = Except.map _ (if _ then _ else _)
      rw [if_neg hnew]
      rfl
    | some f =>
      -- the edge that has the id is another one
      have hf := List.mem_of_find?_eq_some hfind
      have hid : f.id = e.id := by simpa using List.find?_some hfind
      have hold : e.id ∈ w.edges.map Edge.id := List.mem_map.2 ⟨f, hf, hid⟩
      have hne : f ≠ e := fun heq => he (heq ▸ hf)
      show (if f = e then _ else _) = Except.map _ (if _ then _ else _)
      rw [if_neg hne, if_pos hold]
      rfl

/-! ## §3. One edit after another. -/

/-- Makes edits in turn; gives what each gave. -/
def inTurn {α β : Type} (edit : Workflow → α → Except Error (Workflow × β)) (w : Workflow) :
    List α → Except Error (Workflow × List β)
  | [] => .ok (w, [])
  | a :: rest => do
      let (w', b) ← edit w a
      let (w'', more) ← inTurn edit w' rest
      return (w'', b :: more)

/-- Adds nodes under the ids and names that they have; gives them as they
were added. -/
def addNodes : Workflow → List Node → Except Error (Workflow × List Node) :=
  inTurn fun w n => w.addNode n.id (some n.name) n.config

/-- Adds edges; tells of each whether it was new. -/
def addEdges : Workflow → List Edge → Except Error (Workflow × List Bool) := inTurn addEdge

theorem inTurn_cons {α β : Type} {edit : Workflow → α → Except Error (Workflow × β)}
    {w w' w'' : Workflow} {a : α} {rest : List α} {b : β} {more : List β}
    (hfirst : edit w a = .ok (w', b)) (hrest : inTurn edit w' rest = .ok (w'', more)) :
    inTurn edit w (a :: rest) = .ok (w'', b :: more) := by
  unfold inTurn
  rw [hfirst]
  show (inTurn edit w' rest >>= fun p => Except.ok (p.1, b :: p.2)) = _
  rw [hrest]
  rfl

/-- A node with a new id and a name that is free is added as it is. -/
theorem addNode_of_new {n : Node} (hid : ∀ m ∈ w.nodes, m.id ≠ n.id)
    (hname : ∀ m ∈ w.nodes, m.name ≠ n.name) :
    w.addNode n.id (some n.name) n.config = .ok ({ w with nodes := w.nodes ++ [n] }, n) := by
  have hfree : w.isTaken none n.name ≠ true := by
    intro htaken
    obtain ⟨m, hm, heq, -⟩ := (w.isTaken_iff none n.name).1 htaken
    exact hname m hm heq
  have hkept : w.uniqueName n.name none = n.name := by
    unfold uniqueName
    rw [if_neg hfree]
  rw [addNode_eq_ok_iff]
  refine ⟨hid, ?_, rfl⟩
  rw [Option.getD_some, hkept]

/-- The key at the end of a list without repetitions is new. -/
theorem ne_of_nodup_map_append {α : Type} {f : α → String} {l rest : List α} {a : α}
    (h : ((l ++ a :: rest).map f).Nodup) : ∀ x ∈ l, f x ≠ f a := by
  intro x hx heq
  rw [List.map_append, List.nodup_append] at h
  exact h.2.2 (f x) (List.mem_map_of_mem hx) (f a) (List.mem_map_of_mem List.mem_cons_self) heq

/-- **Nodes whose ids and names do not repeat are added as they are.** -/
theorem addNodes_eq (ns : List Node) : ∀ {w : Workflow},
    ((w.nodes ++ ns).map Node.id).Nodup → ((w.nodes ++ ns).map Node.name).Nodup →
      w.addNodes ns = .ok ({ w with nodes := w.nodes ++ ns }, ns) := by
  -- what was built so far is general: each step moves a node over to it
  induction ns with
  | nil =>
    intro w _ _
    rw [List.append_nil]
    rfl
  | cons n rest ih =>
    intro w hids hnames
    have hadd := addNode_of_new (ne_of_nodup_map_append hids) (ne_of_nodup_map_append hnames)
    have hshift : w.nodes ++ n :: rest = w.nodes ++ [n] ++ rest := by simp
    rw [hshift] at hids hnames ⊢
    exact inTurn_cons hadd (ih hids hnames)

/-- Without some of its edges a workflow stays valid. -/
theorem Valid.of_sublist (hw : w.Valid) {es : List Edge} (hsub : es.Sublist w.edges) :
    Valid { w with edges := es } where
  ids := hw.ids
  names := hw.names
  edgeIds := hw.edgeIds.sublist (hsub.map Edge.id)
  sources e he := hw.sources e (hsub.subset he)
  targets e he := hw.targets e (hsub.subset he)
  handles e he := hw.handles e (hsub.subset he)
  outputs := hw.outputs

/-- **The edges of a valid workflow are added one after another, each as a
new one.** -/
theorem addEdges_eq (es : List Edge) : ∀ {w : Workflow},
    Valid { w with edges := w.edges ++ es } →
      w.addEdges es = .ok ({ w with edges := w.edges ++ es }, es.map fun _ => true) := by
  induction es with
  | nil =>
    intro w _
    rw [List.append_nil]
    rfl
  | cons e rest ih =>
    intro w hall
    have hnew : ∀ f ∈ w.edges, f.id ≠ e.id := ne_of_nodup_map_append hall.edgeIds
    -- what was built so far is valid, and so is what has the next edge
    have hw : w.Valid := hall.of_sublist (List.sublist_append_left w.edges (e :: rest))
    have hshift : w.edges ++ e :: rest = w.edges ++ [e] ++ rest := by simp
    rw [hshift] at hall ⊢
    have hmore : Valid { w with edges := w.edges ++ [e] } :=
      hall.of_sublist (List.sublist_append_left (w.edges ++ [e]) rest)
    have hadd : w.addEdge e = .ok ({ w with edges := w.edges ++ [e] }, true) := by
      rw [addEdge_of_not_mem hw fun he => hnew e he rfl, (validate_eq_ok_iff _).2 hmore]
      rfl
    exact inTurn_cons hadd (ih hall)

/-! ## §4. The theorem. -/

/-- **Editing and checking agree.**

An edge that is there is added again to no effect.  Another one is added
exactly when the workflow with that edge at its end passes the check; where
the check fails the edit fails with the same error, and the workflow stays as
it was.  A workflow without outputs comes out of the empty one by adding its
nodes in order, each under the name that it has, and then its edges in order,
each of which is new. -/
theorem edits_agree_with_check (w : Workflow) (h : w.validate = .ok ()) :
    (∀ e ∈ w.edges, w.edited (w.addEdge e) = (w, .ok false)) ∧
    (∀ e ∉ w.edges,
      let more : Workflow := { w with edges := w.edges ++ [e] }
      (w.edited (w.addEdge e) = (more, .ok true) ↔ more.validate = .ok ()) ∧
        ∀ err, w.edited (w.addEdge e) = (w, .error err) ↔ more.validate = .error err) ∧
    (w.outputs = Table.empty →
      addNodes {} w.nodes = .ok ({ nodes := w.nodes }, w.nodes) ∧
        addEdges { nodes := w.nodes } w.edges = .ok (w, w.edges.map fun _ => true)) := by
  have hw : w.Valid := (validate_eq_ok_iff w).1 h
  refine ⟨?_, ?_, ?_⟩
  · intro e he
    rw [edited_eq_ok_iff]
    exact addEdge_of_mem hw he
  · intro e he more
    have hadd : w.addEdge e = more.validate.map fun _ => (more, true) := addEdge_of_not_mem hw he
    rw [edited_eq_ok_iff, hadd]
    constructor
    · cases more.validate <;> simp [Except.map]
    · intro err
      rw [edited_eq_error_iff]
      cases more.validate <;> simp [Except.map]
  · intro houtputs
    have hall : Valid { ({ nodes := w.nodes } : Workflow) with edges := [] ++ w.edges } := by
      refine ⟨hw.ids, hw.names, hw.edgeIds, hw.sources, hw.targets, hw.handles, ?_⟩
      intro id hid
      cases hid
    -- without outputs the nodes and edges are all there is
    have hbuilt : ({ nodes := w.nodes, edges := w.edges } : Workflow) = w := by
      cases w
      cases houtputs
      rfl
    constructor
    · exact addNodes_eq w.nodes hw.ids hw.names
    · rw [addEdges_eq w.edges hall]
      exact congrArg (fun v => Except.ok (v, w.edges.map fun _ => true)) hbuilt

/-- The edge that is there is added to no effect, the way back is added, and
the way back under the id of the way there is refused; and the name `A1`,
which looks like a numbered one, comes out of building as it is. -/
theorem edits_of_two_nodes :
    let w : Workflow :=
      { nodes := [⟨"a", "A", .manual⟩, ⟨"b", "A1", .manual⟩]
        edges := [.connect "a" "b" none] }
    let back : Edge := .connect "b" "a" none
    let reused : Edge := ⟨"a->b", "b", "a", none⟩
    w.validate = .ok () ∧ w.outputs = Table.empty ∧
      (.connect "a" "b" none ∈ w.edges ∧
        w.edited (w.addEdge (.connect "a" "b" none)) = (w, .ok false)) ∧
      (back ∉ w.edges ∧
        w.edited (w.addEdge back) = ({ w with edges := w.edges ++ [back] }, .ok true)) ∧
      (reused ∉ w.edges ∧
        w.edited (w.addEdge reused) = (w, .error (.duplicateEdgeId "a->b"))) ∧
      addNodes {} w.nodes = .ok ({ nodes := w.nodes }, w.nodes) ∧
      addEdges { nodes := w.nodes } w.edges = .ok (w, [true]) := by
  intro w back reused
  have h : w.validate = .ok () := by decide +kernel
  have hthere : .connect "a" "b" none ∈ w.edges := List.mem_cons_self
  have hback : back ∉ w.edges := by decide
  have hreused : reused ∉ w.edges := by decide
  obtain ⟨hagain, hmore, hbuilt⟩ := edits_agree_with_check w h
  obtain ⟨hadded, -⟩ := hmore back hback
  obtain ⟨-, hrefused⟩ := hmore reused hreused
  refine ⟨h, rfl, ⟨hthere, hagain _ hthere⟩, ⟨hback, ?_⟩, ⟨hreused, ?_⟩, hbuilt rfl⟩
  · apply hadded.2
    decide +kernel
  · apply (hrefused _).2
    decide +kernel

end FlowBench.Workflow
