/-
  FlowBench.Proofs.Workflow.Edit
  ──────────────────────────────
  **Edits keep a workflow valid.**

  For each edit, what it asks for and what it gives, and that it gives a
  valid workflow from a valid one.  Names stay apart because a free name is
  chosen, edges fit because the nodes at their ends stay (`Fits.of_nodes`).
-/
import FlowBench.Proofs.Workflow.Names
import FlowBench.Proofs.Workflow.Validity

namespace FlowBench.Workflow

variable {w w' : Workflow} {id : String} {n : Node} {e : Edge}

/-! ## §1. What edits ask for and give. -/

theorem addNode_eq_ok_iff {name : Option String} {config : NodeConfig} :
    w.addNode id name config = .ok (w', n) ↔
      (∀ m ∈ w.nodes, m.id ≠ id) ∧
        n = ⟨id, w.uniqueName (name.getD config.kind.defaultName) none, config⟩ ∧
        w' = { w with nodes := w.nodes ++ [n] } := by
  rw [← node?_eq_none_iff]
  unfold addNode
  cases h : w.node? id with
  | some m => simp
  | none =>
    simp only [Option.isSome_none, Bool.false_eq_true, if_false, Except.ok.injEq, Prod.mk.injEq,
      true_and]
    constructor
    · rintro ⟨rfl, rfl⟩
      exact ⟨rfl, rfl⟩
    · rintro ⟨rfl, rfl⟩
      exact ⟨rfl, rfl⟩

theorem renameNode_eq_ok_iff {name free : String} :
    w.renameNode id name = .ok (w', free) ↔
      w.Has id ∧ free = w.uniqueName name (some id) ∧
        w' = { w with nodes := setName id free w.nodes } := by
  rw [← isSome_node?_iff]
  unfold renameNode
  cases h : w.node? id with
  | none => simp
  | some m =>
    simp only [Option.isNone_some, Bool.false_eq_true, if_false, Except.ok.injEq, Prod.mk.injEq,
      Option.isSome_some, true_and]
    constructor
    · rintro ⟨rfl, rfl⟩
      exact ⟨rfl, rfl⟩
    · rintro ⟨rfl, rfl⟩
      exact ⟨rfl, rfl⟩

theorem removeNode_eq_ok_iff :
    w.removeNode id = .ok (w', n) ↔
      w.node? id = some n ∧
        w' = { nodes := w.nodes.eraseP fun m => m.id = id
               edges := w.edges.filter fun e => e.source ≠ id && e.target ≠ id
               outputs := w.outputs.erase id } := by
  unfold removeNode
  cases h : w.node? id with
  | none => simp
  | some m => simp [and_comm, eq_comm (a := w')]

/-- An edge that fits is there already or is added under a new id. -/
theorem addEdge_eq_ok_iff {new : Bool} :
    w.addEdge e = .ok (w', new) ↔
      w.checkEdge e = .ok () ∧
        ((w.edges.find? (fun f => f.id = e.id) = some e ∧ w' = w ∧ new = false) ∨
          ((∀ f ∈ w.edges, f.id ≠ e.id) ∧
            w' = { w with edges := w.edges ++ [e] } ∧ new = true)) := by
  unfold addEdge
  rw [then_eq_ok_iff]
  refine and_congr_right fun _ => ?_
  have hnone : (∀ f ∈ w.edges, f.id ≠ e.id) ↔ w.edges.find? (fun f => f.id = e.id) = none := by
    rw [List.find?_eq_none]
    simp
  rw [hnone]
  cases hfind : w.edges.find? fun f => f.id = e.id with
  | none =>
    show Except.ok ({ w with edges := w.edges ++ [e] }, true) = Except.ok (w', new) ↔ _
    constructor
    · intro h
      cases h
      exact .inr ⟨rfl, rfl, rfl⟩
    · rintro (⟨h, -⟩ | ⟨-, rfl, rfl⟩)
      · cases h
      · rfl
  | some f =>
    show (if f = e then Except.ok (w, false) else .error (Error.duplicateEdgeId e.id))
      = Except.ok (w', new) ↔ _
    constructor
    · intro h
      split at h
      · next heq =>
        cases h
        exact .inl ⟨congrArg some heq, rfl, rfl⟩
      · cases h
    · rintro (⟨h, rfl, rfl⟩ | ⟨h, -⟩)
      · cases h
        rw [if_pos rfl]
      · cases h

/-! ## §2. Nodes that stay. -/

/-- An edge goes on to fit while its ends stay and the node at its source
keeps its configuration. -/
theorem Fits.of_nodes (h : w.Fits e)
    (keep : ∀ m ∈ w.nodes, m.id = e.source ∨ m.id = e.target → ∃ m' ∈ w'.nodes, m'.id = m.id)
    (back : ∀ m' ∈ w'.nodes, m'.id = e.source →
      ∃ m ∈ w.nodes, m.id = m'.id ∧ m.config = m'.config) : w'.Fits e where
  source := by
    obtain ⟨m, hm, hid⟩ := h.source
    obtain ⟨m', hm', hid'⟩ := keep m hm (.inl hid)
    exact ⟨m', hm', hid'.trans hid⟩
  target := by
    obtain ⟨m, hm, hid⟩ := h.target
    obtain ⟨m', hm', hid'⟩ := keep m hm (.inr hid)
    exact ⟨m', hm', hid'.trans hid⟩
  handle := by
    intro way hway m' hm' hid'
    obtain ⟨m, hm, hid, hconfig⟩ := back m' hm' hid'
    rw [← hconfig]
    exact h.handle way hway m hm (hid.trans hid')

/-- A node with another name, if it has the id. -/
def named (id name : String) (m : Node) : Node := if m.id = id then { m with name := name } else m

@[simp] theorem id_named (id name : String) (m : Node) : (named id name m).id = m.id := by
  unfold named
  split <;> rfl

@[simp] theorem config_named (id name : String) (m : Node) :
    (named id name m).config = m.config := by
  unfold named
  split <;> rfl

theorem name_named (id name : String) (m : Node) :
    (named id name m).name = if m.id = id then name else m.name := by
  unfold named
  split <;> rfl

/-- Where ids are not repeated, naming the first node with an id names the
node with that id. -/
theorem setName_eq_map (id name : String) : ∀ {ns : List Node}, (ns.map Node.id).Nodup →
    setName id name ns = ns.map (named id name)
  | [], _ => rfl
  | m :: rest, h => by
    rw [List.map_cons, List.nodup_cons] at h
    obtain ⟨hnew, hrest⟩ := h
    unfold setName
    rw [List.map_cons]
    by_cases hid : m.id = id
    · rw [if_pos hid]
      -- the rest is left alone, since its ids are others
      have hsame : ∀ m' ∈ rest, named id name m' = m' := by
        intro m' hm'
        unfold named
        rw [if_neg]
        intro hid'
        exact hnew (List.mem_map.2 ⟨m', hm', hid'.trans hid.symm⟩)
      rw [List.map_congr_left hsame, List.map_id']
      unfold named
      rw [if_pos hid]
    · rw [if_neg hid, setName_eq_map id name hrest]
      unfold named
      rw [if_neg hid]

/-- An item whose key is new may be put at the end. -/
theorem nodup_map_append_new {α : Type} {f : α → String} {l : List α} {a : α}
    (h : (l.map f).Nodup) (hnew : ∀ x ∈ l, f x ≠ f a) : ((l ++ [a]).map f).Nodup := by
  rw [List.map_append, List.nodup_append]
  refine ⟨h, List.nodup_singleton _, ?_⟩
  intro k hk k' hk'
  obtain ⟨x, hx, rfl⟩ := List.mem_map.1 hk
  rw [List.mem_singleton.1 hk']
  exact hnew x hx

/-- Naming changes no id. -/
theorem ids_setName (id name : String) : ∀ ns : List Node,
    (setName id name ns).map Node.id = ns.map Node.id
  | [] => rfl
  | m :: rest => by
    unfold setName
    split
    · rfl
    · rw [List.map_cons, ids_setName id name rest, List.map_cons]

theorem has_iff_mem_ids {k : String} : w.Has k ↔ k ∈ w.nodes.map Node.id := by
  unfold Has
  rw [List.mem_map]

theorem has_addNode_iff {name : Option String} {config : NodeConfig}
    (hadd : w.addNode id name config = .ok (w', n)) {k : String} :
    w'.Has k ↔ w.Has k ∨ k = id := by
  obtain ⟨-, rfl, rfl⟩ := addNode_eq_ok_iff.1 hadd
  rw [has_iff_mem_ids, has_iff_mem_ids, List.map_append, List.mem_append]
  simp

theorem has_renameNode_iff {name free : String}
    (hrename : w.renameNode id name = .ok (w', free)) {k : String} : w'.Has k ↔ w.Has k := by
  obtain ⟨-, -, rfl⟩ := renameNode_eq_ok_iff.1 hrename
  rw [has_iff_mem_ids, has_iff_mem_ids, ids_setName]

/-- The other nodes stay. -/
theorem has_of_removeNode (hremove : w.removeNode id = .ok (w', n)) {k : String} (hne : k ≠ id)
    (hk : w.Has k) : w'.Has k := by
  obtain ⟨-, rfl⟩ := removeNode_eq_ok_iff.1 hremove
  obtain ⟨m, hm, rfl⟩ := hk
  exact ⟨m, (List.mem_eraseP_of_neg (by simpa using hne)).2 hm, rfl⟩

theorem has_addEdge_iff {new : Bool} (hadd : w.addEdge e = .ok (w', new)) {k : String} :
    w'.Has k ↔ w.Has k := by
  obtain ⟨-, ⟨-, rfl, -⟩ | ⟨-, rfl, -⟩⟩ := addEdge_eq_ok_iff.1 hadd <;> exact Iff.rfl

/-- An edge changes no node. -/
theorem nodes_of_addEdge {new : Bool} (hadd : w.addEdge e = .ok (w', new)) : w'.nodes = w.nodes := by
  obtain ⟨-, ⟨-, rfl, -⟩ | ⟨-, rfl, -⟩⟩ := addEdge_eq_ok_iff.1 hadd <;> rfl

/-- An edge that is new stands at the end. -/
theorem edges_of_addEdge (hadd : w.addEdge e = .ok (w', true)) : w'.edges = w.edges ++ [e] := by
  obtain ⟨-, ⟨-, -, h⟩ | ⟨-, rfl, -⟩⟩ := addEdge_eq_ok_iff.1 hadd
  · cases h
  · rfl

/-! ## §3. Each edit. -/

namespace Valid

theorem addNode (h : w.Valid) {name : Option String} {config : NodeConfig}
    (hadd : w.addNode id name config = .ok (w', n)) : w'.Valid := by
  obtain ⟨hnew, rfl, rfl⟩ := addNode_eq_ok_iff.1 hadd
  -- the chosen name is free
  have hfree := w.uniqueName_free none (name.getD config.kind.defaultName)
  rw [Bool.eq_false_iff, ne_eq, isTaken_iff] at hfree
  refine .of_fits (nodup_map_append_new h.ids hnew) (nodup_map_append_new h.names ?_) h.edgeIds
    ?_ ?_
  · intro m hm heq
    exact hfree ⟨m, hm, heq, by simp⟩
  · intro e he
    refine (h.fits he).of_nodes (fun m hm _ => ⟨m, List.mem_append_left _ hm, rfl⟩) ?_
    intro m' hm' hid'
    rcases List.mem_append.1 hm' with hm' | hm'
    · exact ⟨m', hm', rfl, rfl⟩
    · -- the source is an older node, and its id is not the new one
      rw [List.mem_singleton.1 hm'] at hid'
      obtain ⟨m, hm, hid⟩ := h.sources e he
      exact absurd (hid.trans hid'.symm) (hnew m hm)
  · intro k hk
    obtain ⟨m, hm, hid⟩ := h.outputs k hk
    exact ⟨m, List.mem_append_left _ hm, hid⟩

theorem renameNode (h : w.Valid) {name free : String}
    (hrename : w.renameNode id name = .ok (w', free)) : w'.Valid := by
  obtain ⟨-, hfree, rfl⟩ := renameNode_eq_ok_iff.1 hrename
  have huntaken := w.uniqueName_free (some id) name
  rw [← hfree, Bool.eq_false_iff, ne_eq, isTaken_iff] at huntaken
  rw [setName_eq_map id free h.ids]
  refine .of_fits ?_ ?_ h.edgeIds ?_ ?_
  · rw [List.map_map]
    exact (List.map_congr_left fun m _ => id_named id free m) ▸ h.ids
  · rw [List.map_map]
    refine List.Nodup.map_on ?_ (List.Nodup.of_map _ h.ids)
    intro m hm m' hm' hname
    simp only [Function.comp_apply, name_named] at hname
    -- the new name is free, so only the renamed node can have it
    by_cases hmid : m.id = id <;> by_cases hmid' : m'.id = id
    · exact List.inj_on_of_nodup_map h.ids hm hm' (hmid.trans hmid'.symm)
    · rw [if_pos hmid, if_neg hmid'] at hname
      exact absurd ⟨m', hm', hname.symm, by simpa using hmid'⟩ huntaken
    · rw [if_neg hmid, if_pos hmid'] at hname
      exact absurd ⟨m, hm, hname, by simpa using hmid⟩ huntaken
    · rw [if_neg hmid, if_neg hmid'] at hname
      exact List.inj_on_of_nodup_map h.names hm hm' hname
  · intro e he
    refine (h.fits he).of_nodes
      (fun m hm _ => ⟨_, List.mem_map_of_mem hm, id_named id free m⟩) ?_
    intro m' hm' _
    obtain ⟨m, hm, rfl⟩ := List.mem_map.1 hm'
    exact ⟨m, hm, (id_named id free m).symm, (config_named id free m).symm⟩
  · intro k hk
    obtain ⟨m, hm, hmid⟩ := h.outputs k hk
    exact ⟨_, List.mem_map_of_mem hm, (id_named id free m).trans hmid⟩

theorem removeNode (h : w.Valid) (hremove : w.removeNode id = .ok (w', n)) : w'.Valid := by
  have hkeep := fun k => has_of_removeNode hremove (k := k)
  obtain ⟨-, rfl⟩ := removeNode_eq_ok_iff.1 hremove
  have hsub := List.eraseP_sublist (p := fun m : Node => m.id = id) (l := w.nodes)
  refine .of_fits (h.ids.sublist (hsub.map _)) (h.names.sublist (hsub.map _))
    (h.edgeIds.sublist (List.filter_sublist.map _)) ?_ ?_
  · intro e he
    obtain ⟨he, hends⟩ := List.mem_filter.1 he
    simp only [ne_eq, decide_not, Bool.and_eq_true, Bool.not_eq_true', decide_eq_false_iff_not]
      at hends
    refine (h.fits he).of_nodes ?_ fun m' hm' _ => ⟨m', hsub.subset hm', rfl, rfl⟩
    intro m hm hend
    refine hkeep m.id (fun hmid => ?_) ⟨m, hm, rfl⟩
    -- the edges at the node have gone with it
    rcases hend with hend | hend
    · exact hends.1 (hend.symm.trans hmid)
    · exact hends.2 (hend.symm.trans hmid)
  · intro k hk
    rw [Table.mem_keys_iff, Table.get?_erase] at hk
    split at hk
    · cases hk
    · next hne => exact hkeep k hne (h.outputs k ((Table.mem_keys_iff _ _).2 hk))

theorem addEdge (h : w.Valid) {new : Bool} (hadd : w.addEdge e = .ok (w', new)) : w'.Valid := by
  obtain ⟨hcheck, ⟨-, rfl, -⟩ | ⟨hnew, rfl, -⟩⟩ := addEdge_eq_ok_iff.1 hadd
  · exact h
  · refine .of_fits h.ids h.names (nodup_map_append_new h.edgeIds hnew) ?_ h.outputs
    intro f hf
    have hfits : w.Fits f := by
      rcases List.mem_append.1 hf with hf | hf
      · exact h.fits hf
      · rw [List.mem_singleton.1 hf]
        exact (checkEdge_eq_ok_iff h.ids).1 hcheck
    exact hfits.of_nodes (fun m hm _ => ⟨m, hm, rfl⟩) fun m hm _ => ⟨m, hm, rfl, rfl⟩

end Valid

end FlowBench.Workflow
