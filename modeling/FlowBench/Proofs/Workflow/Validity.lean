/-
  FlowBench.Proofs.Workflow.Validity
  ──────────────────────────────────
  **The check of a workflow decides `Valid`.**

  `validate` goes through nodes, edges and outputs in order and carries along
  what it has seen.  Each of its passes succeeds exactly when what it checks
  is so, told without the order: for what must not repeat that is
  `AllNew`, for edges `Fits`.
-/
import Mathlib.Data.List.Nodup
import FlowBench.Workflow.Basic

namespace FlowBench

/-- Two checks in turn succeed when both do. -/
theorem then_eq_ok_iff {ε α : Type} {x : Except ε Unit} {y : Except ε α} {a : α} :
    (x >>= fun _ => y) = .ok a ↔ x = .ok () ∧ y = .ok a := by
  cases x with
  | error e =>
    show Except.error e = .ok a ↔ _
    simp
  | ok u =>
    show y = .ok a ↔ _
    simp

/-- Where keys are not repeated, an item is what its key finds. -/
theorem find?_key_eq_some_iff {α : Type} {key : α → String} {l : List α} (h : (l.map key).Nodup)
    {k : String} {a : α} : l.find? (fun x => key x = k) = some a ↔ a ∈ l ∧ key a = k := by
  constructor
  · intro hfind
    exact ⟨List.mem_of_find?_eq_some hfind, by simpa using List.find?_some hfind⟩
  · rintro ⟨ha, hk⟩
    cases hfind : l.find? fun x => key x = k with
    | none => simpa [hk] using List.find?_eq_none.1 hfind a ha
    | some b =>
      have hb : key b = k := by simpa using List.find?_some hfind
      rw [List.inj_on_of_nodup_map h (List.mem_of_find?_eq_some hfind) ha (hb.trans hk.symm)]

namespace Workflow

/-! ## §1. Nodes by id. -/

variable {w : Workflow}

/-- A node has an id. -/
def Has (w : Workflow) (id : String) : Prop := ∃ n ∈ w.nodes, n.id = id

theorem isSome_node?_iff {id : String} : (w.node? id).isSome = true ↔ w.Has id := by
  unfold node? Has
  rw [List.find?_isSome]
  simp

theorem node?_eq_none_iff {id : String} : w.node? id = none ↔ ∀ n ∈ w.nodes, n.id ≠ id := by
  unfold node?
  rw [List.find?_eq_none]
  simp

theorem mem_of_node?_eq_some {id : String} {n : Node} (h : w.node? id = some n) :
    n ∈ w.nodes ∧ n.id = id := by
  unfold node? at h
  exact ⟨List.mem_of_find?_eq_some h, by simpa using List.find?_some h⟩

/-- Where ids are not repeated, a node is what its id finds. -/
theorem node?_eq_some_iff (hids : (w.nodes.map Node.id).Nodup) {id : String} {n : Node} :
    w.node? id = some n ↔ n ∈ w.nodes ∧ n.id = id := find?_key_eq_some_iff hids

/-! ## §2. What must not repeat. -/

/-- No key is repeated and none was seen before. -/
def AllNew (seen keys : List String) : Prop := keys.Nodup ∧ ∀ k ∈ keys, k ∉ seen

theorem allNew_nil (seen : List String) : AllNew seen [] := ⟨List.nodup_nil, by simp⟩

/-- Seen keys grow by each key that is passed. -/
theorem allNew_cons_iff {seen keys : List String} {k : String} :
    AllNew seen (k :: keys) ↔ k ∉ seen ∧ AllNew (k :: seen) keys := by
  unfold AllNew
  simp only [List.nodup_cons, List.mem_cons, forall_eq_or_imp, not_or]
  constructor
  · rintro ⟨⟨hk, hnodup⟩, hseen, hrest⟩
    exact ⟨hseen, hnodup, fun x hx => ⟨fun heq => hk (heq ▸ hx), hrest x hx⟩⟩
  · rintro ⟨hseen, hnodup, hrest⟩
    exact ⟨⟨fun hk => (hrest k hk).1 rfl, hnodup⟩, hseen, fun x hx => (hrest x hx).2⟩

theorem allNew_empty_iff {keys : List String} : AllNew [] keys ↔ keys.Nodup := by
  simp [AllNew]

theorem checkNodes_eq_ok_iff : ∀ (ids names : List String) (ns : List Node),
    checkNodes ids names ns = .ok () ↔
      AllNew ids (ns.map Node.id) ∧ AllNew names (ns.map Node.name)
  | ids, names, [] => by simp [checkNodes, allNew_nil]
  | ids, names, n :: rest => by
    rw [List.map_cons, List.map_cons, allNew_cons_iff, allNew_cons_iff]
    unfold checkNodes
    by_cases hid : n.id ∈ ids
    · simp [hid]
    · by_cases hname : n.name ∈ names
      · simp [hid, hname]
      · rw [if_neg hid, if_neg hname, checkNodes_eq_ok_iff]
        simp [hid, hname]

/-! ## §3. Edges. -/

/-- An edge runs between nodes and leaves by a way out that its source has. -/
structure Fits (w : Workflow) (e : Edge) : Prop where
  source : w.Has e.source
  target : w.Has e.target
  handle : ∀ h, e.handle = some h → ∀ n ∈ w.nodes, n.id = e.source → h ∈ n.config.handles

/-- The edges of a valid workflow fit. -/
theorem Valid.fits (h : w.Valid) {e : Edge} (he : e ∈ w.edges) : w.Fits e :=
  ⟨h.sources e he, h.targets e he, h.handles e he⟩

/-- Where the nodes are told apart, edges fit and outputs have nodes. -/
theorem Valid.of_fits (hids : (w.nodes.map Node.id).Nodup) (hnames : (w.nodes.map Node.name).Nodup)
    (hedgeIds : (w.edges.map Edge.id).Nodup) (hfits : ∀ e ∈ w.edges, w.Fits e)
    (houtputs : ∀ id ∈ w.outputs.keys, w.Has id) : w.Valid where
  ids := hids
  names := hnames
  edgeIds := hedgeIds
  sources e he := (hfits e he).source
  targets e he := (hfits e he).target
  handles e he := (hfits e he).handle
  outputs := houtputs

/-- Once the source of an edge is found, its target and its way out decide. -/
theorem fits_iff (hids : (w.nodes.map Node.id).Nodup) {e : Edge} {source : Node}
    (hsource : w.node? e.source = some source) :
    w.Fits e ↔ w.Has e.target ∧ ∀ h, e.handle = some h → h ∈ source.config.handles := by
  obtain ⟨hmem, hid⟩ := mem_of_node?_eq_some hsource
  constructor
  · intro h
    exact ⟨h.target, fun way hway => h.handle way hway source hmem hid⟩
  · rintro ⟨htarget, hhandle⟩
    refine ⟨⟨source, hmem, hid⟩, htarget, fun way hway n hn hnid => ?_⟩
    -- the node that the id finds is the only one with it
    rw [List.inj_on_of_nodup_map hids hn hmem (hnid.trans hid.symm)]
    exact hhandle way hway

theorem checkEdge_eq_ok_iff (hids : (w.nodes.map Node.id).Nodup) {e : Edge} :
    w.checkEdge e = .ok () ↔ w.Fits e := by
  unfold checkEdge
  cases hsource : w.node? e.source with
  | none =>
    refine ⟨fun h => (nomatch h), fun h => ?_⟩
    obtain ⟨n, hn, hid⟩ := h.source
    exact absurd hid (node?_eq_none_iff.1 hsource n hn)
  | some source =>
    rw [fits_iff hids hsource, ← isSome_node?_iff]
    cases w.node? e.target with
    | none => simp
    | some target =>
      cases e.handle with
      | none => simp
      | some h => by_cases hdeclared : h ∈ source.config.handles <;> simp [hdeclared]

theorem checkEdges_eq_ok_iff (hids : (w.nodes.map Node.id).Nodup) :
    ∀ (seen : List String) (es : List Edge),
      w.checkEdges seen es = .ok () ↔ (∀ e ∈ es, w.Fits e) ∧ AllNew seen (es.map Edge.id)
  | seen, [] => by simp [checkEdges, allNew_nil]
  | seen, e :: rest => by
    unfold checkEdges
    rw [then_eq_ok_iff, checkEdge_eq_ok_iff hids, List.map_cons, allNew_cons_iff,
      List.forall_mem_cons]
    by_cases hid : e.id ∈ seen
    · simp [hid]
    · rw [if_neg hid, checkEdges_eq_ok_iff hids]
      simp [hid, and_assoc]

/-! ## §4. Outputs, and all of it. -/

theorem checkOutputs_eq_ok_iff : w.checkOutputs = .ok () ↔ ∀ id ∈ w.outputs.keys, w.Has id := by
  unfold checkOutputs
  cases hfind : w.outputs.keys.find? fun id => (w.node? id).isNone with
  | none =>
    refine ⟨fun _ id hid => ?_, fun _ => rfl⟩
    have hsome := List.find?_eq_none.1 hfind id hid
    rw [← isSome_node?_iff, ← Option.ne_none_iff_isSome]
    simpa using hsome
  | some id =>
    refine ⟨fun h => (nomatch h), fun h => ?_⟩
    obtain ⟨n, hn, hnid⟩ := h id (List.mem_of_find?_eq_some hfind)
    have hnone := List.find?_some hfind
    rw [Option.isNone_iff_eq_none, node?_eq_none_iff] at hnone
    exact absurd hnid (hnone n hn)

/-- **A workflow passes the check exactly when it is valid.** -/
theorem validate_eq_ok_iff (w : Workflow) : w.validate = .ok () ↔ w.Valid := by
  unfold validate
  rw [then_eq_ok_iff, then_eq_ok_iff, checkNodes_eq_ok_iff, allNew_empty_iff,
    allNew_empty_iff, checkOutputs_eq_ok_iff]
  constructor
  · rintro ⟨⟨hids, hnames⟩, hedges, houtputs⟩
    -- the check of edges means what it should only once the ids are told apart
    rw [checkEdges_eq_ok_iff hids, allNew_empty_iff] at hedges
    exact .of_fits hids hnames hedges.2 hedges.1 houtputs
  · intro h
    refine ⟨⟨h.ids, h.names⟩, ?_, h.outputs⟩
    rw [checkEdges_eq_ok_iff h.ids, allNew_empty_iff]
    exact ⟨fun e he => h.fits he, h.edgeIds⟩

end Workflow

end FlowBench
