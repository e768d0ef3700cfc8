/-
  FlowBench.Proofs.Workflow.Reference
  ───────────────────────────────────
  **The check of references is exact.**

  A reference is reported from the workflow alone: by the names of its nodes
  and a search along its edges.  `Hides` says what each reason means.  That a
  name is reported is the same as that no store at all can bind it, since a
  store with an output of the node would bind it if the node led there; and a
  span that reads from a name that is reported finds nothing, whatever the
  store.  The command that checks a session file prints these reports behind
  its summary and the warning of a cycle, and nothing else.
-/
import FlowBench.Command.Basic
import FlowBench.Proofs.Graph.Collect
import FlowBench.Proofs.Graph.Path
import FlowBench.Proofs.Plan.Files
import FlowBench.Proofs.Reference
import FlowBench.Proofs.Store
import FlowBench.Proofs.Template.Resolve
import FlowBench.Proofs.Workflow.File

namespace FlowBench

/-- Why a node does not see what a name displays. -/
inductive Hides (w : Workflow) (node name : String) : Unseen → Prop where
  | unknown (h : ∀ m ∈ w.nodes, m.name ≠ name) : Hides w node name .unknown
  | itself {m : Node} (hm : m ∈ w.nodes) (hname : m.name = name) (hid : m.id = node) :
      Hides w node name .itself
  /-- The node that has the name does not lead to the one that refers to it. -/
  | elsewhere {m : Node} (hm : m ∈ w.nodes) (hname : m.name = name) (hid : m.id ≠ node)
      (h : ¬ (FlowGraph.ofWorkflow w).Reaches m.id node) : Hides w node name .elsewhere

/-- The line that reports a reference. -/
def DeadReference.line (r : DeadReference) : String :=
  "  warning: " ++ r.node ++ "." ++ r.field ++ " references '" ++ r.name ++ "' ("
    ++ r.reason.text ++ ")"

/-- The line that warns of a cycle. -/
def cycleLine (cycle : List String) : String :=
  "  warning: cycle: " ++ String.intercalate " → " cycle

namespace Workflow

/-- The line that tells how much a session file holds. -/
def summary (w : Workflow) (file : String) : String :=
  "✓ " ++ file ++ " (" ++ toString w.nodes.length ++ " nodes, " ++ toString w.edges.length
    ++ " edges)"

/-- All that is printed when a session file is checked: how much it holds, the
cycle if there is one, and the references that find nothing, each in a line
of its own. -/
def report (w : Workflow) (file : String) : List String :=
  w.summary file :: (((FlowGraph.ofWorkflow w).cycle?.map cycleLine).toList ++
    w.deadReferences.map DeadReference.line)

variable {w : Workflow} {node name : String} {reason : Unseen}

/-! ## §1. The reasons. -/

/-- Where names are not repeated, a node is what its name finds. -/
theorem nodeByName?_eq_some_iff (hnames : (w.nodes.map Node.name).Nodup) {n : Node} :
    w.nodeByName? name = some n ↔ n ∈ w.nodes ∧ n.name = name := find?_key_eq_some_iff hnames

theorem nodeByName?_eq_none_iff : w.nodeByName? name = none ↔ ∀ m ∈ w.nodes, m.name ≠ name := by
  unfold nodeByName?
  rw [List.find?_eq_none]
  simp

/-- The reason that is found is the one that holds. -/
theorem unseen?_eq_some_iff (hnames : (w.nodes.map Node.name).Nodup) :
    w.unseen? (.ofWorkflow w) node name = some reason ↔ Hides w node name reason := by
  unfold unseen?
  cases hfind : w.nodeByName? name with
  | none =>
    have hunknown := nodeByName?_eq_none_iff.1 hfind
    constructor
    · intro h
      cases h
      exact .unknown hunknown
    · intro h
      cases h with
      | unknown => rfl
      | itself hm hname => exact absurd hname (hunknown _ hm)
      | elsewhere hm hname => exact absurd hname (hunknown _ hm)
  | some m =>
    obtain ⟨hm, hname⟩ := (nodeByName?_eq_some_iff hnames).1 hfind
    have honly : ∀ {m'}, m' ∈ w.nodes → m'.name = name → m' = m := fun hm' hname' =>
      List.inj_on_of_nodup_map hnames hm' hm (hname'.trans hname.symm)
    constructor
    · intro h
      simp only at h
      split at h
      · next hid =>
        cases h
        exact .itself hm hname hid
      · next hid =>
        split at h
        · cases h
        · next hpath =>
          cases h
          exact .elsewhere hm hname hid fun hreach => hpath ((FlowGraph.hasPath_iff w).2 hreach)
    · intro h
      cases h with
      | unknown hunknown => exact absurd hname (hunknown m hm)
      | itself hm' hname' hid =>
        obtain rfl := honly hm' hname'
        simp [hid]
      | elsewhere hm' hname' hid hreach =>
        obtain rfl := honly hm' hname'
        simp [hid, FlowGraph.hasPath_iff, hreach]

/-! ## §2. What is reported. -/

theorem mem_deadReferences_iff (hnames : (w.nodes.map Node.name).Nodup) {r : DeadReference} :
    r ∈ w.deadReferences ↔ ∃ n ∈ w.nodes, ∃ t ∈ n.config.texts,
      r.node = n.id ∧ r.field = t.1 ∧ r.name ∈ Template.referencedNames t.2 ∧
        Hides w n.id r.name r.reason := by
  unfold deadReferences deadIn
  simp only [List.mem_flatMap, List.mem_filterMap, Option.map_eq_some_iff]
  constructor
  · rintro ⟨n, hn, t, ht, name, hname, reason, hreason, rfl⟩
    exact ⟨n, hn, t, ht, rfl, rfl, hname, (unseen?_eq_some_iff hnames).1 hreason⟩
  · rintro ⟨n, hn, t, ht, hnode, hfield, hname, hreason⟩
    refine ⟨n, hn, t, ht, r.name, hname, r.reason, (unseen?_eq_some_iff hnames).2 hreason, ?_⟩
    rw [← hnode, ← hfield]

/-- **A name is hidden from a node for some reason exactly when no store
shows it there.** -/
theorem exists_hides_iff (hw : w.Valid) :
    (∃ reason, Hides w node name reason) ↔
      ∀ store, ((FlowGraph.ofWorkflow w).collect store node).named.get? name = none := by
  constructor
  · rintro ⟨reason, hhides⟩ store
    rw [Option.eq_none_iff_forall_ne_some]
    intro v hv
    obtain ⟨n, hn, hid, hreach, hname, -⟩ := (FlowGraph.get?_named_collect_iff hw).1 hv
    have honly : ∀ {m}, m ∈ w.nodes → m.name = name → m = n := fun hm hmname =>
      List.inj_on_of_nodup_map hw.names hm hn (hmname.trans hname.symm)
    cases hhides with
    | unknown hunknown => exact hunknown n hn hname
    | itself hm hmname hmid => exact hid (honly hm hmname ▸ hmid)
    | elsewhere hm hmname _ hnot => exact hnot (honly hm hmname ▸ hreach)
  · intro hnone
    by_cases hknown : ∃ m ∈ w.nodes, m.name = name
    · obtain ⟨m, hm, hname⟩ := hknown
      by_cases hid : m.id = node
      · exact ⟨_, .itself hm hname hid⟩
      · refine ⟨_, .elsewhere hm hname hid fun hreach => ?_⟩
        -- a store that holds an output of the node would show it
        have hshown : ((FlowGraph.ofWorkflow w).collect (Store.seed {} m.id .null) node).named.get?
            name = some .null :=
          (FlowGraph.get?_named_collect_iff hw).2
            ⟨m, hm, hid, hreach, hname, by simp [Store.output?]⟩
        rw [hnone] at hshown
        cases hshown
    · exact ⟨_, .unknown fun m hm hname => hknown ⟨m, hm, hname⟩⟩

/-! ## §3. What is printed. -/

theorem findings_eq_report (w : Workflow) (file : String) :
    Command.findings file w = w.report file := by
  unfold Command.findings report
  rw [List.append_assoc]
  rfl

/-- Checking the file of a sound workflow prints its report, and that is all. -/
theorem run_validate {world : Rehearsal} {file text : String}
    (hread : world.folder.read file = .ok text) (hload : ofYaml text = .ok w) (clock : String)
    (settings : Settings) :
    world.perform ((Command.validate file).plan clock settings).run =
      ((w.report file).foldl Rehearsal.saying world, .ok ()) := by
  have hplan : (Command.validate file).plan clock settings =
      (Command.workflowIn file >>= fun w => liftM (Plan.printAll (Command.findings file w))) := rfl
  unfold Rehearsal.perform
  rw [hplan, Plan.Fallible.run_bind, Plan.Fallible.run_workflowIn, hread]
  dsimp only
  rw [hload]
  dsimp only
  rw [Plan.Fallible.run_lift, Plan.run_printAll, findings_eq_report]

/-! ## §4. The theorem. -/

open Template in
/-- **A reference is reported exactly when it can find nothing.**  Of the
names that a text of a node refers to, those are reported that no store at
all shows to the node, each for a reason that holds.  Checking a file that
holds the workflow prints its report, in which each reference has a line of
its own, and nothing else comes of it.  Whatever the outputs are, a span of
the text that reads from a name that is reported is left as it stands. -/
theorem reported_iff_never_seen (w : Workflow) (h : w.validate = .ok ()) {n : Node}
    (hn : n ∈ w.nodes) {field text name : String} (htext : (field, text) ∈ n.config.texts)
    (hname : name ∈ referencedNames text) :
    let sees (store : Store) : Context := (FlowGraph.ofWorkflow w).collect store n.id
    let Reported (reason : Unseen) : Prop := ⟨n.id, field, name, reason⟩ ∈ w.deadReferences
    ((∃ reason, Reported reason) ↔ ∀ store, (sees store).named.get? name = none) ∧
      (∀ reason, Reported reason ↔ Hides w n.id name reason) ∧
      (∀ file yaml clock settings (world : Rehearsal), world.folder.read file = .ok yaml →
        ofYaml yaml = .ok w →
          world.perform ((Command.validate file).plan clock settings).run =
            ((w.report file).foldl Rehearsal.saying world, .ok ())) ∧
      ∀ reason, Reported reason → ∀ store clock before literal body after last,
        split text.toList = ⟨before ++ (literal, body) :: after, last⟩ →
        (Reference.parse (String.ofList (trim body))).nodeName? = some name →
          (resolve clock (sees store) text).text.toList =
              Parts.fill clock (sees store) ⟨before, literal⟩ ++ delimited body ++
                Parts.fill clock (sees store) ⟨after, last⟩ ∧
            String.ofList (delimited body) ∈ (resolve clock (sees store) text).unresolved := by
  intro sees Reported
  have hw : w.Valid := (validate_eq_ok_iff w).1 h
  have hreported : ∀ reason, Reported reason ↔ Hides w n.id name reason := by
    intro reason
    unfold Reported
    rw [mem_deadReferences_iff hw.names]
    constructor
    · rintro ⟨m, -, t, -, hid, -, -, hhides⟩
      have hid : n.id = m.id := hid
      rwa [hid]
    · intro hhides
      exact ⟨n, hn, (field, text), htext, rfl, rfl, hname, hhides⟩
  have hnever : (∃ reason, Reported reason) ↔ ∀ store, (sees store).named.get? name = none := by
    rw [exists_congr hreported]
    exact exists_hides_iff hw
  refine ⟨hnever, hreported, fun file yaml clock settings world hread hload =>
    run_validate hread hload clock settings, ?_⟩
  intro reason hreason store clock before literal body after last hsplit hspan
  have hmiss : find? clock (sees store) body = none :=
    find?_eq_none_iff.2 (.inr (Reference.resolve?_eq_none hspan (hnever.1 ⟨reason, hreason⟩ store)
      clock))
  rw [resolve_eq, hsplit]
  show (String.ofList _).toList = _ ∧ _
  rw [String.toList_ofList]
  exact Parts.fill_of_missed hmiss

open Template in
/-- The node `b` lies between `a` and `c`: its reference to what is displayed
as `C` is reported and printed, no store shows it, and its span stays. -/
theorem reference_downstream_is_reported :
    let text := "{{ C.x }}{{ A.x }}"
    let b : Node := ⟨"b", "B", .set { fields := Table.ofList [("f", text)] }⟩
    let w : Workflow :=
      { nodes := [⟨"a", "A", .manual⟩, b, ⟨"c", "C", .manual⟩]
        edges := [.connect "a" "b" none, .connect "b" "c" none] }
    let sees (store : Store) : Context := (FlowGraph.ofWorkflow w).collect store "b"
    let world : Rehearsal := { folder := ⟨Table.ofList [("s", w.toYaml)]⟩ }
    w.validate = .ok () ∧ b ∈ w.nodes ∧ ("fields.f", text) ∈ b.config.texts ∧
      "C" ∈ referencedNames text ∧ ⟨"b", "fields.f", "C", .elsewhere⟩ ∈ w.deadReferences ∧
      (∀ store, (sees store).named.get? "C" = none) ∧
      (world.perform ((Command.validate "s").plan "" {}).run).1.printed =
        "✓ s (3 nodes, 2 edges)\n  warning: b.fields.f references 'C' (not upstream)\n" ∧
      ∀ store clock, "{{ C.x }}" ∈ (resolve clock (sees store) text).unresolved := by
  intro text b w sees world
  have h : w.validate = .ok () := by decide +kernel
  have hb : b ∈ w.nodes := by decide +kernel
  have htext : ("fields.f", text) ∈ b.config.texts := by decide +kernel
  have hname : "C" ∈ referencedNames text := by decide +kernel
  have hdead : ⟨"b", "fields.f", "C", .elsewhere⟩ ∈ w.deadReferences := by decide +kernel
  have hload : ofYaml w.toYaml = .ok w := by
    have hnumbers : ∀ n ∈ w.nodes, n.HasNumbers := by
      rintro n hn x hx
      simp only [w, List.mem_cons, List.not_mem_nil, or_false] at hn
      rcases hn with rfl | rfl | rfl <;> cases hx
    rw [ofYaml_toYaml hnumbers nofun (by decide +kernel), h]
    rfl
  obtain ⟨hnever, -, hprints, hstays⟩ := reported_iff_never_seen w h hb htext hname
  refine ⟨h, hb, htext, hname, hdead, hnever.1 ⟨_, hdead⟩, ?_, fun store clock => ?_⟩
  · rw [hprints "s" w.toYaml "" {} world (Folder.read_alone _) hload]
    decide +kernel
  · exact (hstays _ hdead store clock [] [] " C.x ".toList
      [([], " A.x ".toList)] [] (by decide +kernel) (by decide +kernel)).2

end Workflow

end FlowBench
