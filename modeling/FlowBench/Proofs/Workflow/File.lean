/-
  FlowBench.Proofs.Workflow.File
  ──────────────────────────────
  **Session files read back.**

  A workflow's document fits the shape of session files, and whatever value
  tells it describes the workflow: nodes, edges and outputs, in order, with
  every id as it is, whether it was derived or given.  So the value of the
  document is read as the workflow, and so is its text, if the tree of the
  text writes the document.
-/
import FlowBench.Proofs.Node.Schema
import FlowBench.Workflow.File

namespace FlowBench

open Document (Fits FitFields)
open Entries (get?)
open Value (Tells)

/-! ## §1. Edges. -/

namespace Edge

theorem fitFields (e : Edge) : FitFields
    ([("id", .text e.id), ("source", .text e.source), ("target", .text e.target)]
      ++ NodeConfig.optionalText "handle" e.handle)
    [Shape.usual "id" (.orNull .text), Shape.needed "source" .text, Shape.needed "target" .text,
      Shape.usual "handle" (.orNull .text)] :=
  .given (Document.fits_text e.id).orNull <| .given (Document.fits_text e.source) <|
    .given (Document.fits_text e.target) <| .optional_last Document.fits_optionalText

theorem fits_toDocument (e : Edge) : e.toDocument.Fits shape :=
  Document.fits_record e.fitFields (by decide)

theorem ofShaped_of_tells {e : Edge} {v : Value} (h : v.Tells e.toDocument) : ofShaped v = e := by
  have hds := e.fitFields.sublist.nodup (by decide)
  have hid : v.textAt? "id" = some e.id := h.textAt?_eq hds rfl
  have hsource : v.textAtD "source" "" = e.source := h.textAtD_eq hds rfl ""
  have htarget : v.textAtD "target" "" = e.target := h.textAtD_eq hds rfl ""
  have hhandle : v.textAt? "handle" = e.handle := h.textAt?_eq hds (by simp [get?])
  simp only [ofShaped, connect, hid, hsource, htarget, hhandle, Option.getD_some]

end Edge

/-! ## §2. Nodes. -/

namespace Node

/-- The temperature that a node sets, if it sets one, is a number. -/
def HasNumbers (n : Node) : Prop := ∀ x, n.config.temperature? = some x → x.isFinite = true

variable {n : Node} {v : Value}

theorem fitFields (n : Node) : FitFields
    ([("id", .text n.id), ("name", .text n.name)] ++ n.config.fields)
    [Shape.needed "id" .text, Shape.usual "name" (.orNull .text),
      Shape.needed "type" (.choice NodeKind.words), Shape.usual "config" (.orNull .any)] :=
  .given (Document.fits_text n.id) <| .given (Document.fits_text n.name).orNull <|
    .given (Document.fits_choice n.config.kind.word_mem_words) <|
    .given Document.fits_any.orNull .nil

theorem nodup_fields (n : Node) :
    (([("id", .text n.id), ("name", .text n.name)] ++ n.config.fields :
      List (String × Document)).map Prod.fst).Nodup :=
  n.fitFields.sublist.nodup (by decide)

theorem kindAt_of_tells (h : v.Tells n.toDocument) : kindAt v = n.config.kind := by
  have htype : v.textAt? "type" = some n.config.kind.word := h.textAt?_eq n.nodup_fields rfl
  rw [kindAt, htype]
  exact congrArg (Option.getD · .manual) (NodeKind.ofWord?_word n.config.kind)

/-- The configuration of a node is checked against its kind, and stays. -/
theorem checkConfig_of_tells (hn : n.HasNumbers) (h : v.Tells n.toDocument) :
    ∃ w, checkConfig v = .ok w ∧ w.Tells n.toDocument := by
  obtain ⟨id, hid, hidTells⟩ := h.field?_eq_some (k := "id") n.nodup_fields rfl
  obtain ⟨name, hname, hnameTells⟩ := h.field?_eq_some (k := "name") n.nodup_fields rfl
  obtain ⟨type, htype, htypeTells⟩ := h.field?_eq_some (k := "type") n.nodup_fields rfl
  obtain ⟨config, hconfig, hconfigTells⟩ := h.field?_eq_some (k := "config") n.nodup_fields rfl
  obtain ⟨shaped, hshaped, hback⟩ := (n.config.fits_settings hn).read hconfigTells .held
  obtain ⟨fields, rfl⟩ : ∃ fields, config = .obj fields := by
    rw [NodeConfig.settings_eq_record] at hconfigTells
    obtain ⟨fields, rfl, -⟩ := hconfigTells.fields
    exact ⟨_, rfl⟩
  refine ⟨.object [("id", id), ("name", name), ("type", type), ("config", shaped)], ?_, ?_⟩
  · unfold checkConfig
    simp only [hid, hname, htype, hconfig, kindAt_of_tells h, Option.getD_some, hshaped]
  · exact Value.FieldsTell.tells (.cons ⟨rfl, hidTells⟩ <| .cons ⟨rfl, hnameTells⟩ <|
      .cons ⟨rfl, htypeTells⟩ <| .cons ⟨rfl, hback⟩ .nil)

theorem fits_toDocument (hn : n.HasNumbers) : n.toDocument.Fits shape :=
  (Document.fits_record n.fitFields (by decide)).refined fun _ => checkConfig_of_tells hn

theorem ofShaped_of_tells (hn : n.HasNumbers) (h : v.Tells n.toDocument) : ofShaped v = n := by
  have hid : v.textAtD "id" "" = n.id := h.textAtD_eq n.nodup_fields rfl ""
  have hname (fallback : String) : v.textAtD "name" fallback = n.name :=
    h.textAtD_eq n.nodup_fields rfl fallback
  obtain ⟨config, hconfig, hconfigTells⟩ := h.field?_eq_some (k := "config") n.nodup_fields rfl
  simp only [ofShaped, kindAt_of_tells h, hid, hname, hconfig, Option.getD_some,
    n.config.ofShaped_of_tells hn hconfigTells]

end Node

/-! ## §3. Workflows. -/

namespace Workflow

variable {w : Workflow} {v : Value}

theorem fitFields (w : Workflow) (hnodes : ∀ n ∈ w.nodes, n.HasNumbers) : FitFields
    ([("nodes", .list (w.nodes.map Node.toDocument))]
      ++ (if w.edges.isEmpty then [] else [("edges", .list (w.edges.map Edge.toDocument))])
      ++ (if w.outputs.isEmpty then []
        else [("outputs", Document.ofValue (Value.ofTable w.outputs))]))
    [Shape.usual "nodes" (.list Node.shape), Shape.usual "edges" (.list Edge.shape),
      Shape.usual "outputs" (.table .any)] := by
  have hnodeDocuments : ∀ d ∈ w.nodes.map Node.toDocument, d.Fits Node.shape := by
    intro d hd
    obtain ⟨n, hn, rfl⟩ := List.mem_map.1 hd
    exact Node.fits_toDocument (hnodes n hn)
  have hedgeDocuments : ∀ d ∈ w.edges.map Edge.toDocument, d.Fits Edge.shape := by
    intro d hd
    obtain ⟨e, -, rfl⟩ := List.mem_map.1 hd
    exact e.fits_toDocument
  have houtputs : (Document.ofValue (Value.ofTable w.outputs)).Fits (.table .any) := by
    rw [Value.ofTable, Document.ofValue, Document.ofFields_eq_map]
    refine Document.fits_table ?_ fun _ _ => Document.fits_any
    rw [List.map_map]
    exact w.outputs.increasing.nodup
  rw [List.append_assoc]
  exact .given (Document.fits_list hnodeDocuments) <|
    .nonempty _ (Document.fits_list hedgeDocuments) <| .nonempty_last _ houtputs

theorem fits_toDocument (w : Workflow) (hnodes : ∀ n ∈ w.nodes, n.HasNumbers) :
    w.toDocument.Fits shape :=
  Document.fits_record (w.fitFields hnodes) (by decide)

/-- Whatever tells the document of a workflow describes the workflow. -/
theorem ofShaped_of_tells (hnodes : ∀ n ∈ w.nodes, n.HasNumbers)
    (houtputs : ∀ id v, w.outputs.get? id = some v → v.Proper) (h : v.Tells w.toDocument) :
    ofShaped v = w := by
  have hds := (w.fitFields hnodes).sublist.nodup (by decide)
  have hlist : (v.listAt "nodes").map Node.ofShaped = w.nodes :=
    Value.map_eq_of_tells (fun n hn _ hv => Node.ofShaped_of_tells (hnodes n hn) hv)
      (h.listAt hds rfl)
  have hedges : (v.listAt "edges").map Edge.ofShaped = w.edges :=
    Value.map_eq_of_tells (fun _ _ _ hv => Edge.ofShaped_of_tells hv)
      (h.listAt_of_nonempty hds (by
        simp [get?, Entries.get?_append, -List.isEmpty_iff]))
  have houts : (v.tableAt "outputs").filterMap some = w.outputs := by
    refine h.tableAt_of_nonempty (f := Document.ofValue) hds ?_ ?_
    · rintro x v ⟨id, hx⟩ hv
      rw [Document.eq_of_tells_ofValue x (houtputs id x hx) hv]
    · rw [← Document.ofFields_eq_map]
      simp [get?, Entries.get?_append, Value.ofTable, Document.ofValue, -List.isEmpty_iff]
  rw [Table.filterMap_some] at houts
  rw [ofShaped, hlist, hedges, houts]

/-- The value of a workflow's document is read as the workflow. -/
theorem read_toDocument (hnodes : ∀ n ∈ w.nodes, n.HasNumbers)
    (houtputs : ∀ id v, w.outputs.get? id = some v → v.Proper) :
    Workflow.read w.toDocument.toValue = .ok w := by
  obtain ⟨v, hread, hv⟩ := (w.fits_toDocument hnodes).read w.toDocument.tells_toValue .direct
  rw [Workflow.read, hread]
  exact congrArg Except.ok (ofShaped_of_tells hnodes houtputs hv)

/-- What is read of a session file is checked. -/
theorem ofYaml_of_readAs {text : String} {v : Value} (h : Yaml.readAs shape text = .ok v) :
    ofYaml text = (ofShaped v).validate.map fun _ => ofShaped v := by
  rw [ofYaml, h]
  show ((ofShaped v).validate >>= fun _ => Except.ok (ofShaped v)) = _
  cases (ofShaped v).validate <;> rfl

/-- The text of a document that reads back is read as the workflow, which is
then checked. -/
theorem ofYaml_toYaml (hnodes : ∀ n ∈ w.nodes, n.HasNumbers)
    (houtputs : ∀ id v, w.outputs.get? id = some v → v.Proper)
    (hback : Yaml.readsBack w.toDocument = true) :
    ofYaml w.toYaml = w.validate.map fun _ => w := by
  obtain ⟨t, ht, hwrites⟩ := (Option.any_eq_true _ _).1 hback
  obtain ⟨v, hread, hv⟩ := (w.fits_toDocument hnodes).readTree hwrites ""
  have hreadAs : Yaml.readAs shape w.toYaml = .ok v := by
    rw [Yaml.readAs, toYaml, ht]
    simp only [hread]
  rw [ofYaml_of_readAs hreadAs, ofShaped_of_tells hnodes houtputs hv]

/-- The value of a workflow's document is read as the workflow, and a
document that reads back from its text is read as the workflow too, if this
is sound. -/
theorem session_file_round_trip (w : Workflow) (hnumbers : ∀ n ∈ w.nodes, n.HasNumbers)
    (houtputs : ∀ id v, w.outputs.get? id = some v → v.Proper) :
    Workflow.read w.toDocument.toValue = .ok w ∧
      (w.validate = .ok () → Yaml.readsBack w.toDocument = true → ofYaml w.toYaml = .ok w) := by
  refine ⟨read_toDocument hnumbers houtputs, fun hvalid hback => ?_⟩
  rw [ofYaml_toYaml hnumbers houtputs hback, hvalid]
  rfl

/-- A question at a fractional temperature, an edge with an id of its own and
a number kept as output. -/
theorem round_trip_of_question :
    let w : Workflow :=
      { nodes := [⟨"a", "A", .llm
          { provider := "p", model := "m", prompt := "", temperature := some ⟨false, 1060320051⟩ }⟩]
        edges := [⟨"e", "a", "a", none⟩]
        outputs := Table.ofList [("a", .float ⟨false, 4607182418800017408⟩)] }
    w.validate = .ok () ∧ Yaml.readsBack w.toDocument = true ∧
      Workflow.read w.toDocument.toValue = .ok w ∧ ofYaml w.toYaml = .ok w := by
  intro w
  have hvalid : w.validate = .ok () := by decide +kernel
  have hback : Yaml.readsBack w.toDocument = true := by decide +kernel
  have hnumbers : ∀ n ∈ w.nodes, n.HasNumbers := by
    intro n hn x hx
    obtain rfl := List.mem_singleton.1 hn
    cases hx
    rfl
  have houtputs : ∀ id v, w.outputs.get? id = some v → v.Proper := by
    intro id v hv
    cases List.mem_singleton.1 (Table.get?_eq_some_iff.1 hv)
    rfl
  obtain ⟨hread, htext⟩ := session_file_round_trip w hnumbers houtputs
  exact ⟨hvalid, hback, hread, htext hvalid hback⟩

end Workflow

end FlowBench
