/-
  FlowBench.Proofs.Workflow.Fault
  ───────────────────────────────
  **The check of a workflow is exact.**

  It passes what is sound and nothing else, and what it reports is there.
  `Fault` says for every error of the check what must be so of a workflow for
  the error to be true of it, without the order in which the check goes: a
  key that stands twice, an edge that does not fit (`Misfit`), an output
  without a node.  The passes over nodes and edges carry along the keys they
  have seen, so a key that is met again was seen before or stands twice in
  what is still to come (`Again`); at the start nothing is seen.
-/
import Mathlib.Data.List.Duplicate
import FlowBench.Proofs.Workflow.Validity

namespace FlowBench

/-- Two checks in turn fail with the first fault. -/
theorem then_eq_error_iff {ε α : Type} {x : Except ε Unit} {y : Except ε α} {err : ε} :
    (x >>= fun _ => y) = .error err ↔ x = .error err ∨ x = .ok () ∧ y = .error err := by
  cases x with
  | error e =>
    show Except.error e = .error err ↔ _
    simp
  | ok u =>
    show y = .error err ↔ _
    simp

namespace Workflow

variable {w : Workflow} {err : Error}

/-! ## §1. Keys that are met again. -/

/-- A key was seen before and comes up, or comes up twice. -/
def Again (seen keys : List String) (k : String) : Prop :=
  (k ∈ seen ∧ k ∈ keys) ∨ List.Duplicate k keys

theorem again_empty_iff {keys : List String} {k : String} :
    Again [] keys k ↔ List.Duplicate k keys := by
  simp [Again]

/-- A seen key comes up. -/
theorem Again.head {seen keys : List String} {k : String} (h : k ∈ seen) :
    Again seen (k :: keys) k := .inl ⟨h, List.mem_cons_self⟩

/-- What is met again behind a key that was passed is met again. -/
theorem Again.cons {seen keys : List String} {k passed : String}
    (h : Again (passed :: seen) keys k) : Again seen (passed :: keys) k := by
  rcases h with ⟨hseen, hk⟩ | htwice
  · rcases List.mem_cons.1 hseen with rfl | hseen
    · -- the key that was passed comes up a second time
      exact .inr (List.Mem.duplicate_cons_self hk)
    · exact .inl ⟨hseen, List.mem_cons_of_mem passed hk⟩
  · exact .inr (htwice.duplicate_cons passed)

/-- The pass over the nodes reports an id or a name that it meets again. -/
theorem again_of_checkNodes : ∀ {ids names : List String} {ns : List Node},
    checkNodes ids names ns = .error err →
      (∃ id, err = .duplicateNodeId id ∧ Again ids (ns.map Node.id) id) ∨
        ∃ name, err = .duplicateName name ∧ Again names (ns.map Node.name) name
  | _, _, [], h => nomatch h
  | ids, names, n :: rest, h => by
    unfold checkNodes at h
    by_cases hid : n.id ∈ ids
    · rw [if_pos hid] at h
      cases h
      exact .inl ⟨n.id, rfl, .head hid⟩
    · rw [if_neg hid] at h
      by_cases hname : n.name ∈ names
      · rw [if_pos hname] at h
        cases h
        exact .inr ⟨n.name, rfl, .head hname⟩
      · rw [if_neg hname] at h
        rcases again_of_checkNodes h with ⟨id, herr, hagain⟩ | ⟨name, herr, hagain⟩
        · exact .inl ⟨id, herr, hagain.cons⟩
        · exact .inr ⟨name, herr, hagain.cons⟩

/-! ## §2. Edges that do not fit. -/

/-- Why an edge does not fit, as it is reported. -/
inductive Misfit (w : Workflow) (e : Edge) : Error → Prop where
  | source (h : ∀ n ∈ w.nodes, n.id ≠ e.source) : Misfit w e (.danglingEdge e.id e.source)
  | target (h : ∀ n ∈ w.nodes, n.id ≠ e.target) : Misfit w e (.danglingEdge e.id e.target)
  /-- The source exists and does not have the way out that the edge names. -/
  | handle {n : Node} {way : String} (hn : n ∈ w.nodes) (hid : n.id = e.source)
      (hway : e.handle = some way) (h : way ∉ n.config.handles) :
      Misfit w e (.unknownHandle e.id n.id way)

/-- An edge with a misfit does not fit. -/
theorem Misfit.not_fits {e : Edge} (h : Misfit w e err) : ¬ w.Fits e := by
  intro hfits
  cases h with
  | source h =>
    obtain ⟨n, hn, hid⟩ := hfits.source
    exact h n hn hid
  | target h =>
    obtain ⟨n, hn, hid⟩ := hfits.target
    exact h n hn hid
  | handle hn hid hway h => exact h (hfits.handle _ hway _ hn hid)

theorem misfit_of_checkEdge {e : Edge} (h : w.checkEdge e = .error err) : Misfit w e err := by
  unfold checkEdge at h
  cases hsource : w.node? e.source with
  | none =>
    rw [hsource] at h
    cases h
    exact .source (node?_eq_none_iff.1 hsource)
  | some n =>
    rw [hsource] at h
    -- the source is there, so the target comes next and the way out last
    obtain ⟨hn, hid⟩ := mem_of_node?_eq_some hsource
    simp only at h
    split at h
    · next htarget =>
      cases h
      exact .target (node?_eq_none_iff.1 (Option.isNone_iff_eq_none.1 htarget))
    · cases hway : e.handle with
      | none =>
        rw [hway] at h
        cases h
      | some way =>
        rw [hway] at h
        simp only at h
        split at h
        · cases h
        · next hdeclared =>
          cases h
          exact .handle hn hid hway hdeclared

/-- The pass over the edges reports one that does not fit, or an id that it
meets again. -/
theorem again_of_checkEdges : ∀ {seen : List String} {es : List Edge},
    w.checkEdges seen es = .error err →
      (∃ e ∈ es, Misfit w e err) ∨
        ∃ id, err = .duplicateEdgeId id ∧ Again seen (es.map Edge.id) id
  | _, [], h => nomatch h
  | seen, e :: rest, h => by
    unfold checkEdges at h
    rcases then_eq_error_iff.1 h with h | ⟨-, h⟩
    · exact .inl ⟨e, List.mem_cons_self, misfit_of_checkEdge h⟩
    · by_cases hid : e.id ∈ seen
      · rw [if_pos hid] at h
        cases h
        exact .inr ⟨e.id, rfl, .head hid⟩
      · rw [if_neg hid] at h
        rcases again_of_checkEdges h with ⟨f, hf, hmisfit⟩ | ⟨id, herr, hagain⟩
        · exact .inl ⟨f, List.mem_cons_of_mem e hf, hmisfit⟩
        · exact .inr ⟨id, herr, hagain.cons⟩

/-! ## §3. Faults. -/

/-- What is wrong with a workflow, as it is reported. -/
inductive Fault (w : Workflow) : Error → Prop where
  | nodeId {id : String} (h : List.Duplicate id (w.nodes.map Node.id)) :
      Fault w (.duplicateNodeId id)
  | name {name : String} (h : List.Duplicate name (w.nodes.map Node.name)) :
      Fault w (.duplicateName name)
  | edge {e : Edge} {err : Error} (he : e ∈ w.edges) (h : Misfit w e err) : Fault w err
  | edgeId {id : String} (h : List.Duplicate id (w.edges.map Edge.id)) :
      Fault w (.duplicateEdgeId id)
  /-- An output belongs to no node. -/
  | output {id : String} (hid : id ∈ w.outputs.keys) (h : ∀ n ∈ w.nodes, n.id ≠ id) :
      Fault w (.nodeNotFound id)

/-- A valid workflow has no fault. -/
theorem Valid.no_fault (hw : w.Valid) (h : Fault w err) : False := by
  cases h with
  | nodeId h => exact h.not_nodup hw.ids
  | name h => exact h.not_nodup hw.names
  | edge he h => exact h.not_fits (hw.fits he)
  | edgeId h => exact h.not_nodup hw.edgeIds
  | output hid h =>
    obtain ⟨n, hn, hnid⟩ := hw.outputs _ hid
    exact h n hn hnid

theorem fault_of_checkOutputs (h : w.checkOutputs = .error err) : Fault w err := by
  unfold checkOutputs at h
  cases hfind : w.outputs.keys.find? fun id => (w.node? id).isNone with
  | none =>
    rw [hfind] at h
    cases h
  | some id =>
    rw [hfind] at h
    cases h
    have hnone := List.find?_some hfind
    rw [Option.isNone_iff_eq_none, node?_eq_none_iff] at hnone
    exact .output (List.mem_of_find?_eq_some hfind) hnone

/-- **What the check reports is there.** -/
theorem fault_of_validate (h : w.validate = .error err) : Fault w err := by
  unfold validate at h
  rcases then_eq_error_iff.1 h with h | ⟨-, h⟩
  · rcases again_of_checkNodes h with ⟨id, rfl, hagain⟩ | ⟨name, rfl, hagain⟩
    · exact .nodeId (again_empty_iff.1 hagain)
    · exact .name (again_empty_iff.1 hagain)
  · rcases then_eq_error_iff.1 h with h | ⟨-, h⟩
    · rcases again_of_checkEdges h with ⟨e, he, hmisfit⟩ | ⟨id, rfl, hagain⟩
      · exact .edge he hmisfit
      · exact .edgeId (again_empty_iff.1 hagain)
    · exact fault_of_checkOutputs h

/-! ## §4. The theorem. -/

/-- **The check passes a workflow exactly when it is sound, and an error that
it gives is true of it.**

Sound is a workflow whose node ids, display names and edge ids are each not
repeated, whose edges run between its nodes and leave by ways out that their
sources have, and whose outputs belong to its nodes.  The check stops at one
fault among all that there may be: there is an error exactly where there is
a fault, and the error names one. -/
theorem check_is_exact (w : Workflow) :
    (w.validate = .ok () ↔
      (w.nodes.map Node.id).Nodup ∧ (w.nodes.map Node.name).Nodup ∧
        (w.edges.map Edge.id).Nodup ∧
        (∀ e ∈ w.edges, (∃ n ∈ w.nodes, n.id = e.source) ∧ ∃ n ∈ w.nodes, n.id = e.target) ∧
        (∀ e ∈ w.edges, ∀ way, e.handle = some way →
          ∀ n ∈ w.nodes, n.id = e.source → way ∈ n.config.handles) ∧
        ∀ id ∈ w.outputs.keys, ∃ n ∈ w.nodes, n.id = id) ∧
    (∀ err, w.validate = .error err → Fault w err) ∧
    ((∃ err, w.validate = .error err) ↔ ∃ err, Fault w err) := by
  refine ⟨?_, fun err => fault_of_validate, ?_⟩
  · rw [validate_eq_ok_iff]
    constructor
    · intro h
      exact ⟨h.ids, h.names, h.edgeIds, fun e he => ⟨h.sources e he, h.targets e he⟩, h.handles,
        h.outputs⟩
    · rintro ⟨hids, hnames, hedgeIds, hends, hhandles, houtputs⟩
      exact ⟨hids, hnames, hedgeIds, fun e he => (hends e he).1, fun e he => (hends e he).2,
        hhandles, houtputs⟩
  · constructor
    · rintro ⟨err, h⟩
      exact ⟨err, fault_of_validate h⟩
    · rintro ⟨err, hfault⟩
      -- the error need not be the one of this fault
      cases hcheck : w.validate with
      | error found => exact ⟨found, rfl⟩
      | ok u => exact (((validate_eq_ok_iff w).1 hcheck).no_fault hfault).elim

/-- Of several faults one is reported: a switch with one rule has no second
way out, and the edge that leaves by it has the id of the one before it. -/
theorem check_of_undeclared_way_out :
    let w : Workflow :=
      { nodes := [⟨"s", "S", .switch { value := "", rules := [{ value := "x" }] }⟩,
          ⟨"a", "A", .manual⟩]
        edges := [⟨"e", "s", "a", some "output0"⟩, ⟨"e", "s", "a", some "output1"⟩] }
    w.validate = .error (.unknownHandle "e" "s" "output1") ∧
      Fault w (.unknownHandle "e" "s" "output1") ∧ Fault w (.duplicateEdgeId "e") := by
  intro w
  have hreport : w.validate = .error (.unknownHandle "e" "s" "output1") := by decide +kernel
  exact ⟨hreport, (check_is_exact w).2.1 _ hreport, .edgeId (by decide)⟩

end Workflow

end FlowBench
