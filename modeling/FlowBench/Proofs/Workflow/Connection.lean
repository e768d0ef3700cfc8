/-
  FlowBench.Proofs.Workflow.Connection
  ────────────────────────────────────
  **What a derived id tells of its connection.**

  A derived id is the source, its way out behind a colon if one is named, an
  arrow and the target, without any mark of where a part ends.  Ids of nodes
  are any texts, so an id may be cut in more than one place.  `Mistakes` says
  when one connection can be read where another was written: its target goes
  on from another arrow, or its source spells a way out of the other's.  Two
  connections that fit share a derived id exactly then.
-/
import FlowBench.Proofs.Workflow.Fault
import FlowBench.Proofs.Workflow.File
import FlowBench.Workflow.Edit

namespace FlowBench

/-! ## §1. Marks in texts. -/

/-- An arrow in front of a text is the one that another text ends in, or
stands in that text. -/
theorem cons_arrow_eq_append {c b b' : List Char} (h : '-' :: '>' :: b = c ++ '-' :: '>' :: b') :
    (c = [] ∧ b = b') ∨ ∃ m, c = '-' :: '>' :: m ∧ b = m ++ '-' :: '>' :: b' := by
  match c, h with
  | [], h => exact .inl ⟨rfl, by simpa using h⟩
  | [_], h => simp at h
  | x :: y :: m, h =>
    simp only [List.cons_append, List.cons.injEq] at h
    obtain ⟨rfl, rfl, rfl⟩ := h
    exact .inr ⟨m, rfl, rfl⟩

/-- Of two arrows in one text one comes first, unless they are the same. -/
theorem append_arrow_cases {a b a' b' : List Char}
    (h : a ++ '-' :: '>' :: b = a' ++ '-' :: '>' :: b') :
    (a = a' ∧ b = b') ∨
      (∃ m, a = a' ++ '-' :: '>' :: m ∧ b' = m ++ '-' :: '>' :: b) ∨
        ∃ m, a' = a ++ '-' :: '>' :: m ∧ b = m ++ '-' :: '>' :: b' := by
  rcases List.append_eq_append_iff.1 h with ⟨c, rfl, hc⟩ | ⟨c, rfl, hc⟩
  · rcases cons_arrow_eq_append hc with ⟨rfl, rfl⟩ | ⟨m, rfl, rfl⟩
    · exact .inl ⟨by simp, rfl⟩
    · exact .inr (.inr ⟨m, rfl, rfl⟩)
  · rcases cons_arrow_eq_append hc with ⟨rfl, rfl⟩ | ⟨m, rfl, rfl⟩
    · exact .inl ⟨by simp, rfl⟩
    · exact .inr (.inl ⟨m, rfl, rfl⟩)

/-- The last colon cuts a text in one way. -/
theorem append_colon_inj {a b a' b' : List Char} (hb : ':' ∉ b) (hb' : ':' ∉ b')
    (h : a ++ ':' :: b = a' ++ ':' :: b') : a = a' ∧ b = b' := by
  rcases List.append_eq_append_iff.1 h with ⟨c, rfl, hc⟩ | ⟨c, rfl, hc⟩
  · cases c with
    | nil => simpa using hc
    | cons x m =>
      rw [List.cons_append, List.cons.injEq] at hc
      exact absurd (hc.2 ▸ by simp) hb
  · cases c with
    | nil => simpa using hc.symm
    | cons x m =>
      rw [List.cons_append, List.cons.injEq] at hc
      exact absurd (hc.2 ▸ by simp) hb'

/-! ## §2. Derived ids. -/

namespace NodeConfig

/-- No way out has a colon in its name. -/
theorem colon_notMem_handles {c : NodeConfig} {h : String} (hh : h ∈ c.handles) :
    ':' ∉ h.toList := by
  cases c with
  | conditional c =>
    have hword : h = trueHandle ∨ h = falseHandle := by simpa [handles] using hh
    rcases hword with rfl | rfl <;> decide
  | switch c =>
    simp only [handles, List.mem_append, List.mem_map] at hh
    rcases hh with ⟨i, -, rfl⟩ | hfallback
    · intro hmem
      rw [ruleHandle, String.toList_append, List.mem_append,
        Nat.toString_eq_ofList_toDigits] at hmem
      rcases hmem with hword | hnumber
      · exact absurd hword (by decide)
      · have hdigits : ':' ∈ Nat.toDigits 10 i := by rwa [String.toList_ofList] at hnumber
        have hdigit : Char.isDigit ':' = true :=
          Nat.isDigit_of_mem_toDigits (by decide) (by decide) hdigits
        exact absurd hdigit (by decide)
    · split at hfallback
      · rw [List.mem_singleton.1 hfallback]
        decide
      · cases hfallback
  | _ => simp [handles] at hh

end NodeConfig

namespace Edge

/-- An edge has the id of its connection. -/
def IsDerived (e : Edge) : Prop := e.id = derivedId e.source e.target e.handle

/-- Where an edge leaves, as it stands in front of the arrow. -/
def way (e : Edge) : String :=
  match e.handle with
  | some handle => e.source ++ ":" ++ handle
  | none => e.source

/-- Where one edge was written another can be read: their targets are one and
the source of the first spells the way out of the other, or the text goes on
to the arrow of the first behind that of the other. -/
inductive Mistakes (e f : Edge) : Prop where
  | colon (handle : String) (he : e.handle = none) (hf : f.handle = some handle)
      (hsource : e.source = f.source ++ ":" ++ handle) (htarget : e.target = f.target)
  | arrow (between : String) (hway : e.way = f.way ++ "->" ++ between)
      (htarget : f.target = between ++ "->" ++ e.target)

variable {e f : Edge}

theorem isDerived_iff : e.IsDerived ↔ e = connect e.source e.target e.handle := by
  constructor
  · intro h
    cases e
    exact congrArg (fun id => Edge.mk id _ _ _) h
  · intro h
    rw [IsDerived, h]
    rfl

theorem isDerived_connect (source target : String) (handle : Option String) :
    (connect source target handle).IsDerived := rfl

theorem IsDerived.id_eq (h : e.IsDerived) : e.id = e.way ++ "->" ++ e.target := by
  rw [show e.id = _ from h]
  unfold derivedId way
  cases e.handle <;> rfl

theorem IsDerived.ext (he : e.IsDerived) (hf : f.IsDerived) (hsource : e.source = f.source)
    (htarget : e.target = f.target) (hhandle : e.handle = f.handle) : e = f := by
  rw [isDerived_iff.1 he, isDerived_iff.1 hf, hsource, htarget, hhandle]

namespace Mistakes

/-- What is read where an edge was written has its id. -/
theorem id_eq (h : e.Mistakes f) (he : e.IsDerived) (hf : f.IsDerived) : e.id = f.id := by
  rw [he.id_eq, hf.id_eq]
  cases h with
  | colon handle hhe hhf hsource htarget =>
    have hway : e.way = f.way := by simp only [way, hhe, hhf, hsource]
    rw [hway, htarget]
  | arrow between hway htarget => rw [hway, htarget, String.append_assoc, String.append_assoc,
      String.append_assoc, String.append_assoc, String.append_assoc]

/-- What is read where an edge was written is another edge. -/
theorem ne (h : e.Mistakes f) : e ≠ f := by
  rintro rfl
  cases h with
  | colon handle hhe hhf => rw [hhe] at hhf; cases hhf
  | arrow between hway =>
    have hlength := congrArg (fun s => s.toList.length) hway
    simp at hlength

end Mistakes

/-- Edges that leave by one way out are from one source by one handle, unless
the source of one spells the way out of the other. -/
theorem way_eq_cases (he : ∀ h, e.handle = some h → ':' ∉ h.toList)
    (hf : ∀ h, f.handle = some h → ':' ∉ h.toList) (hway : e.way = f.way)
    (htarget : e.target = f.target) :
    (e.source = f.source ∧ e.handle = f.handle) ∨ e.Mistakes f ∨ f.Mistakes e := by
  unfold way at hway
  cases hhe : e.handle with
  | none =>
    cases hhf : f.handle with
    | none =>
      rw [hhe, hhf] at hway
      exact .inl ⟨hway, rfl⟩
    | some k =>
      rw [hhe, hhf] at hway
      exact .inr (.inl (.colon k hhe hhf hway htarget))
  | some h =>
    cases hhf : f.handle with
    | none =>
      rw [hhe, hhf] at hway
      exact .inr (.inr (.colon h hhf hhe hway.symm htarget.symm))
    | some k =>
      rw [hhe, hhf] at hway
      have hlist : e.source.toList ++ ':' :: h.toList = f.source.toList ++ ':' :: k.toList := by
        simpa using congrArg String.toList hway
      obtain ⟨hsource, hhandle⟩ := append_colon_inj (he h hhe) (hf k hhf) hlist
      exact .inl ⟨String.toList_inj.1 hsource, congrArg some (String.toList_inj.1 hhandle)⟩

/-- **Two connections share a derived id exactly if they are one or one can be
read where the other was written.** -/
theorem id_eq_iff (hde : e.IsDerived) (hdf : f.IsDerived)
    (he : ∀ h, e.handle = some h → ':' ∉ h.toList)
    (hf : ∀ h, f.handle = some h → ':' ∉ h.toList) :
    e.id = f.id ↔ e = f ∨ e.Mistakes f ∨ f.Mistakes e := by
  constructor
  · intro hid
    rw [hde.id_eq, hdf.id_eq] at hid
    have hlist : e.way.toList ++ '-' :: '>' :: e.target.toList =
        f.way.toList ++ '-' :: '>' :: f.target.toList := by
      simpa using congrArg String.toList hid
    -- either the arrows are one, or one of them stands in the target of the other edge
    rcases append_arrow_cases hlist with ⟨hway, htarget⟩ | ⟨m, hway, htarget⟩ | ⟨m, hway, htarget⟩
    · rw [String.toList_inj] at hway htarget
      rcases way_eq_cases he hf hway htarget with ⟨hsource, hhandle⟩ | hmistakes
      · exact .inl (hde.ext hdf hsource htarget hhandle)
      · exact .inr hmistakes
    · refine .inr (.inl (.arrow (String.ofList m) ?_ ?_)) <;> rw [← String.toList_inj] <;> simpa
    · refine .inr (.inr (.arrow (String.ofList m) ?_ ?_)) <;> rw [← String.toList_inj] <;> simpa
  · rintro (rfl | hmistakes | hmistakes)
    · rfl
    · exact hmistakes.id_eq hde hdf
    · exact (hmistakes.id_eq hdf hde).symm

/-- An edge that is described without an id gets that of its connection. -/
theorem isDerived_ofShaped {v : Value} (h : v.textAt? "id" = none) : (ofShaped v).IsDerived := by
  unfold ofShaped
  rw [h]
  rfl

end Edge

/-! ## §3. Edges of a workflow. -/

namespace Workflow

variable {w : Workflow} {e f : Edge}

/-- Both ends of an edge that passes the check exist, and its source has the
way out that it names. -/
theorem exists_ends_of_checkEdge (h : w.checkEdge e = .ok ()) :
    ∃ n ∈ w.nodes, n.id = e.source ∧ (∀ way, e.handle = some way → way ∈ n.config.handles) ∧
      ∃ m ∈ w.nodes, m.id = e.target := by
  unfold checkEdge at h
  cases hsource : w.node? e.source with
  | none =>
    rw [hsource] at h
    cases h
  | some n =>
    rw [hsource] at h
    obtain ⟨hn, hid⟩ := mem_of_node?_eq_some hsource
    simp only at h
    cases htarget : w.node? e.target with
    | none =>
      rw [htarget] at h
      cases h
    | some m =>
      refine ⟨n, hn, hid, fun way hway => ?_, m, mem_of_node?_eq_some htarget⟩
      rw [htarget, hway] at h
      by_contra hundeclared
      simp [hundeclared] at h

theorem colon_notMem_of_checkEdge (h : w.checkEdge e = .ok ()) :
    ∀ way, e.handle = some way → ':' ∉ way.toList := by
  obtain ⟨n, -, -, hdeclared, -⟩ := exists_ends_of_checkEdge h
  exact fun way hway => NodeConfig.colon_notMem_handles (hdeclared way hway)

theorem id_eq_iff_of_checkEdge (hde : e.IsDerived) (hdf : f.IsDerived)
    (he : w.checkEdge e = .ok ()) (hf : w.checkEdge f = .ok ()) :
    e.id = f.id ↔ e = f ∨ e.Mistakes f ∨ f.Mistakes e :=
  Edge.id_eq_iff hde hdf (colon_notMem_of_checkEdge he) (colon_notMem_of_checkEdge hf)

/-- Every edge has the id of its connection and passes the check. -/
def Connects (w : Workflow) : Prop := ∀ e ∈ w.edges, e.IsDerived ∧ w.checkEdge e = .ok ()

/-- A connection that is new is refused for its id exactly if it and one that
is there can be read for each other. -/
theorem addEdge_connection (hw : w.Connects) (hde : e.IsDerived) (he : w.checkEdge e = .ok ())
    (hnew : e ∉ w.edges) :
    ((∃ f ∈ w.edges, e.Mistakes f ∨ f.Mistakes e) →
      w.addEdge e = .error (.duplicateEdgeId e.id)) ∧
    ((∀ f ∈ w.edges, ¬ (e.Mistakes f ∨ f.Mistakes e)) →
      w.addEdge e = .ok ({ w with edges := w.edges ++ [e] }, true)) := by
  have hshared : ∀ f ∈ w.edges, f.id = e.id ↔ e.Mistakes f ∨ f.Mistakes e := by
    intro f hf
    have hne : e ≠ f := fun heq => hnew (heq ▸ hf)
    obtain ⟨hdf, hcheck⟩ := hw f hf
    rw [eq_comm, id_eq_iff_of_checkEdge hde hdf he hcheck, or_iff_right hne]
  unfold addEdge
  rw [he]
  cases hfind : w.edges.find? fun f => f.id = e.id with
  | none =>
    rw [List.find?_eq_none] at hfind
    refine ⟨fun ⟨f, hf, hmistakes⟩ => ?_, fun _ => rfl⟩
    exact absurd ((hshared f hf).2 hmistakes) (by simpa using hfind f hf)
  | some f =>
    have hf := List.mem_of_find?_eq_some hfind
    have hid : f.id = e.id := by simpa using List.find?_some hfind
    refine ⟨fun _ => ?_, fun hnone => absurd ((hshared f hf).1 hid) (hnone f hf)⟩
    show (if f = e then _ else _) = _
    have hne : f ≠ e := fun heq => hnew (heq ▸ hf)
    rw [if_neg hne]

/-- Where no connection can be read for another, no id is repeated. -/
theorem nodup_ids_of_connects (hw : w.Connects) (hdistinct : w.edges.Nodup)
    (hclear : ∀ e ∈ w.edges, ∀ f ∈ w.edges, ¬ e.Mistakes f) : (w.edges.map Edge.id).Nodup := by
  refine List.Nodup.map_on (fun e he f hf hid => ?_) hdistinct
  rcases (id_eq_iff_of_checkEdge (hw e he).1 (hw f hf).1 (hw e he).2 (hw f hf).2).1 hid with
    heq | hmistakes | hmistakes
  · exact heq
  · exact absurd hmistakes (hclear e he f hf)
  · exact absurd hmistakes (hclear f hf e he)

/-- A workflow of connections that is refused for an edge id has two that can
be read for each other. -/
theorem exists_mistakes_of_validate (hw : w.Connects) (hdistinct : w.edges.Nodup) {id : String}
    (h : w.validate = .error (.duplicateEdgeId id)) :
    ∃ e ∈ w.edges, ∃ f ∈ w.edges, e.Mistakes f := by
  by_contra hnone
  have hclear : ∀ e ∈ w.edges, ∀ f ∈ w.edges, ¬ e.Mistakes f :=
    fun e he f hf hmistakes => hnone ⟨e, he, f, hf, hmistakes⟩
  cases fault_of_validate h with
  | edge he hmisfit => cases hmisfit
  | edgeId hduplicate => exact hduplicate.not_nodup (nodup_ids_of_connects hw hdistinct hclear)

/-- A workflow of connections whose nodes are told apart is refused for an edge
id if two can be read for each other. -/
theorem exists_validate_of_mistakes (hw : w.Connects) (hnodes : checkNodes [] [] w.nodes = .ok ())
    (h : ∃ e ∈ w.edges, ∃ f ∈ w.edges, e.Mistakes f) :
    ∃ id, w.validate = .error (.duplicateEdgeId id) := by
  obtain ⟨e, he, f, hf, hmistakes⟩ := h
  have hid := hmistakes.id_eq (hw e he).1 (hw f hf).1
  cases hedges : w.checkEdges [] w.edges with
  | ok u =>
    -- edges that pass have ids of their own
    rw [checkNodes_eq_ok_iff, allNew_empty_iff, allNew_empty_iff] at hnodes
    have hids := allNew_empty_iff.1 ((checkEdges_eq_ok_iff hnodes.1 [] w.edges).1 hedges).2
    exact absurd (List.inj_on_of_nodup_map hids he hf hid) hmistakes.ne
  | error err =>
    rcases again_of_checkEdges hedges with ⟨g, hg, hmisfit⟩ | ⟨id, rfl, -⟩
    · have hfits := hmisfit.not_fits
      rw [checkNodes_eq_ok_iff, allNew_empty_iff, allNew_empty_iff] at hnodes
      exact absurd ((checkEdge_eq_ok_iff hnodes.1).1 (hw g hg).2) hfits
    · refine ⟨id, ?_⟩
      unfold validate
      rw [hnodes, hedges]
      rfl

/-- No node id can be taken for a part of a derived id: none has an arrow in
it, and none is the id of a node with one of its ways out. -/
structure PlainIds (w : Workflow) : Prop where
  arrow : ∀ n ∈ w.nodes, ¬ ['-', '>'] <:+: n.id.toList
  colon : ∀ n ∈ w.nodes, ∀ m ∈ w.nodes, ∀ handle ∈ m.config.handles,
    n.id ≠ m.id ++ ":" ++ handle

/-- Between nodes with plain ids no connection can be read for another. -/
theorem PlainIds.not_mistakes (hw : w.PlainIds) (he : w.checkEdge e = .ok ())
    (hf : w.checkEdge f = .ok ()) : ¬ e.Mistakes f := by
  intro h
  obtain ⟨n, hn, hnid, -, -⟩ := exists_ends_of_checkEdge he
  obtain ⟨m, hm, hmid, hway, t, ht, htid⟩ := exists_ends_of_checkEdge hf
  cases h with
  | colon handle hhe hhf hsource htarget =>
    apply hw.colon n hn m hm handle (hway handle hhf)
    rw [hnid, hmid, hsource]
  | arrow between hbetween htarget =>
    apply hw.arrow t ht
    rw [htid, htarget]
    exact ⟨between.toList, e.target.toList, by simp⟩

/-! ## §4. Session files. -/

theorem ofYaml_eq_error_iff {text : String} {v : Value} {err : Error}
    (h : Yaml.readAs shape text = .ok v) :
    ofYaml text = .error err ↔ (ofShaped v).validate = .error err := by
  rw [ofYaml_of_readAs h]
  cases (ofShaped v).validate <;> simp [Except.map]

/-- Edges that a session file gives no id have those of their connections. -/
theorem connects_ofShaped {v : Value} (hids : ∀ x ∈ v.listAt "edges", x.textAt? "id" = none)
    (hcheck : ∀ e ∈ (ofShaped v).edges, (ofShaped v).checkEdge e = .ok ()) :
    (ofShaped v).Connects := by
  intro e he
  refine ⟨?_, hcheck e he⟩
  obtain ⟨x, hx, rfl⟩ := List.mem_map.1 he
  exact Edge.isDerived_ofShaped (hids x hx)

/-! ## §5. The theorem. -/

/-- **Derived ids tell connections apart, but for those that can be read for
each other.**

* Two connections between nodes of a workflow, through ways out that their
  sources have or none, share a derived id exactly if they are the same, in
  source, handle and target, or one can be read where the other was written.
* In a workflow of such connections, one that is new is refused for its id if
  it and one that is there can be read for each other, and else is added.
* A session file that describes distinct connections without ids is refused
  for an edge id only if two of them can be read for each other, and then it
  is refused so unless its nodes are at fault.
* Between nodes with plain ids no connection can be read for another. -/
theorem connections_by_derived_ids :
    (∀ (w : Workflow) (e f : Edge), e.IsDerived → f.IsDerived →
      w.checkEdge e = .ok () → w.checkEdge f = .ok () →
      (e.id = f.id ↔ (e.source = f.source ∧ e.handle = f.handle ∧ e.target = f.target) ∨
        e.Mistakes f ∨ f.Mistakes e)) ∧
    (∀ (w : Workflow) (e : Edge), w.Connects → e.IsDerived → w.checkEdge e = .ok () →
      e ∉ w.edges →
      ((∃ f ∈ w.edges, e.Mistakes f ∨ f.Mistakes e) →
        w.addEdge e = .error (.duplicateEdgeId e.id)) ∧
      ((∀ f ∈ w.edges, ¬ (e.Mistakes f ∨ f.Mistakes e)) →
        w.addEdge e = .ok ({ w with edges := w.edges ++ [e] }, true))) ∧
    (∀ (text : String) (v : Value), Yaml.readAs shape text = .ok v →
      (∀ x ∈ v.listAt "edges", x.textAt? "id" = none) →
      (∀ e ∈ (ofShaped v).edges, (ofShaped v).checkEdge e = .ok ()) →
      (ofShaped v).edges.Nodup →
      (∀ id, ofYaml text = .error (.duplicateEdgeId id) →
        ∃ e ∈ (ofShaped v).edges, ∃ f ∈ (ofShaped v).edges, e.Mistakes f) ∧
      (checkNodes [] [] (ofShaped v).nodes = .ok () →
        (∃ e ∈ (ofShaped v).edges, ∃ f ∈ (ofShaped v).edges, e.Mistakes f) →
        ∃ id, ofYaml text = .error (.duplicateEdgeId id))) ∧
    (∀ w : Workflow, w.PlainIds → ∀ e f : Edge, w.checkEdge e = .ok () →
      w.checkEdge f = .ok () → ¬ e.Mistakes f) := by
  refine ⟨?_, ?_, ?_, ?_⟩
  · intro w e f hde hdf he hf
    rw [id_eq_iff_of_checkEdge hde hdf he hf]
    refine or_congr_left ⟨?_, ?_⟩
    · rintro rfl
      exact ⟨rfl, rfl, rfl⟩
    · rintro ⟨hsource, hhandle, htarget⟩
      exact hde.ext hdf hsource htarget hhandle
  · intro w e hw hde he hnew
    exact addEdge_connection hw hde he hnew
  · intro text v hread hids hcheck hdistinct
    have hw := connects_ofShaped hids hcheck
    refine ⟨fun id h => ?_, fun hnodes h => ?_⟩
    · exact exists_mistakes_of_validate hw hdistinct ((ofYaml_eq_error_iff hread).1 h)
    · obtain ⟨id, hid⟩ := exists_validate_of_mistakes hw hnodes h
      exact ⟨id, (ofYaml_eq_error_iff hread).2 hid⟩
  · intro w hw e f he hf
    exact hw.not_mistakes he hf

/-- A session file of two nodes, `x` and `x->x`, and the connections between
them, there and back. -/
def arrowFile : String :=
  "\x7bnodes: [\x7bid: x, name: A, type: set\x7d, \x7bid: x->x, name: B, type: set\x7d], "
    ++ "edges: [\x7bsource: x, target: x->x\x7d, \x7bsource: x->x, target: x\x7d]\x7d"

/-- The derived ids of the connections from `x` to `x->x` and back are one, so
the second is not added, and the session file of both is refused.  Between `a`
and `b` neither is mistaken for the other. -/
theorem connections_of_arrow_in_id :
    let there : Edge := .connect "x" "x->x" none
    let back : Edge := .connect "x->x" "x" none
    let w : Workflow :=
      { nodes := [⟨"x", "A", .set {}⟩, ⟨"x->x", "B", .set {}⟩], edges := [there] }
    w.Connects ∧ w.checkEdge back = .ok () ∧ back ∉ w.edges ∧ there.id = back.id ∧
      w.addEdge back = .error (.duplicateEdgeId "x->x->x") ∧
      (∃ id, ofYaml arrowFile = .error (.duplicateEdgeId id)) ∧
      ¬ (Edge.connect "a" "b" none).Mistakes (.connect "b" "a" none) := by
  intro there back w
  have hback : w.checkEdge back = .ok () := by decide +kernel
  have hthere : w.checkEdge there = .ok () := by decide +kernel
  have hconnects : w.Connects := by
    intro e he
    rw [List.mem_singleton.1 he]
    exact ⟨rfl, hthere⟩
  have hnew : back ∉ w.edges := by decide
  have hmistakes : back.Mistakes there := .arrow "x" (by decide) (by decide)
  obtain ⟨hshared, hadd, hfile, hplain⟩ := connections_by_derived_ids
  refine ⟨hconnects, hback, hnew, ?_, ?_, ?_, ?_⟩
  · exact (hshared w there back rfl rfl hthere hback).2 (.inr (.inr hmistakes))
  · exact (hadd w back hconnects rfl hback hnew).1 ⟨there, List.mem_cons_self, .inl hmistakes⟩
  · -- the file is read once, for all that is asked of it
    have hread : (Yaml.readAs shape arrowFile).toOption.any (fun v =>
        ((v.listAt "edges").all fun x => (x.textAt? "id").isNone) &&
          ((ofShaped v).edges = [there, back]) && (ofShaped v).nodes = w.nodes) = true := by
      decide +kernel
    obtain ⟨v, hv, hfacts⟩ := (Option.any_eq_true _ _).1 hread
    simp only [Bool.and_eq_true, List.all_eq_true, Option.isNone_iff_eq_none,
      decide_eq_true_eq] at hfacts
    obtain ⟨⟨hids, hedges⟩, hnodes⟩ := hfacts
    have hok : Yaml.readAs shape arrowFile = .ok v := by
      cases h : Yaml.readAs shape arrowFile <;> simp_all [Except.toOption]
    have hcheck (e : Edge) : (ofShaped v).checkEdge e = w.checkEdge e := by
      unfold checkEdge node?
      rw [hnodes]
    refine (hfile arrowFile v hok hids ?_ ?_).2 ?_ ?_
    · rw [hedges]
      simp [hcheck, hthere, hback]
    · rw [hedges]
      decide
    · rw [hnodes]
      decide +kernel
    · rw [hedges]
      exact ⟨back, by simp, there, by simp, hmistakes⟩
  · let plain : Workflow := { nodes := [⟨"a", "A", .manual⟩, ⟨"b", "B", .manual⟩] }
    have hids : plain.PlainIds := ⟨by decide, by decide⟩
    exact hplain plain hids _ _ (by decide +kernel) (by decide +kernel)

/-- A condition holds and leads to `b`, and the node whose id spells this way
out leads there too.  The two connections share their derived id: the second
is not added, and a workflow of both does not pass the check. -/
theorem derived_id_of_two_connections :
    let yes : Edge := .connect "a" "b" (some "true")
    let other : Edge := .connect "a:true" "b" none
    let w : Workflow :=
      { nodes := [⟨"a", "A", .conditional { left := "" }⟩, ⟨"a:true", "B", .set {}⟩,
          ⟨"b", "C", .set {}⟩]
        edges := [yes] }
    w.validate = .ok () ∧ yes.IsDerived ∧ other.IsDerived ∧ w.checkEdge other = .ok () ∧
      yes.source ≠ other.source ∧ yes.id = other.id ∧
      w.addEdge other = .error (.duplicateEdgeId "a:true->b") ∧
      validate { w with edges := [yes, other] } = .error (.duplicateEdgeId "a:true->b") := by
  intro yes other w
  have hvalid : w.validate = .ok () := by decide +kernel
  have hcheck : w.checkEdge other = .ok () := by decide +kernel
  have hyes : w.checkEdge yes = .ok () := by decide +kernel
  have hconnects : w.Connects := by
    intro e he
    rw [List.mem_singleton.1 he]
    exact ⟨rfl, hyes⟩
  have hmistakes : other.Mistakes yes := .colon "true" rfl rfl (by decide) rfl
  have hadd : w.addEdge other = .error (.duplicateEdgeId other.id) :=
    (addEdge_connection hconnects (Edge.isDerived_connect _ _ _) hcheck (by decide)).1
      ⟨yes, List.mem_cons_self, .inl hmistakes⟩
  exact ⟨hvalid, rfl, rfl, hcheck, by decide, by decide, hadd, by decide +kernel⟩

end Workflow

end FlowBench
