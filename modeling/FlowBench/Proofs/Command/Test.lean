/-
  FlowBench.Proofs.Command.Test
  ─────────────────────────────
  **A test is saved as a whole or not at all.**

  `Gives` says when the test of a node in a session file comes to an output:
  settings, file, executor and node are there, and the executor gives it.  A
  test succeeds exactly then.  All that a test does before it has the output
  keeps the files, so only the last act can change one, and this act cannot
  fail: a file that was read can be replaced.  What is written is the workflow
  with one more output; it is read back, since a workflow that was read is
  sound and holds proper values, and the output is proper too.
-/
import FlowBench.Command.Line
import FlowBench.Proofs.Backend.Reply
import FlowBench.Proofs.Plan.Files
import FlowBench.Proofs.Yaml.Proper

namespace FlowBench

open Plan (Fallible)
open Rehearsal (run)

/-! ## §1. Outputs. -/

theorem Script.proper_echo (r : TestRequest) : (echo r).Proper := by
  refine Value.proper_object ?_
  simp only [List.forall_mem_cons, List.not_mem_nil, false_implies, implies_true, and_true]
  exact ⟨trivial, Document.proper_toValue _⟩

theorem Http.Reply.proper_output {r : Http.Reply} {node : String} {v : Value}
    (h : r.output node = .ok v) : v.Proper := by
  obtain ⟨-, ⟨fields, hbody, hfield⟩, -⟩ := (r.means_output node).eq_ok_iff.1 h
  exact (Json.proper_read hbody).field hfield

namespace Executor

open Plan.Fallible

theorem keepsFiles_run (x : Executor) (cancelled : Bool) (r : TestRequest) :
    (x.run cancelled r).run.KeepsFiles := by
  cases x with
  | echo => exact keepsFiles_give _
  | backend b =>
    unfold Executor.run
    dsimp only
    split
    · exact keepsFiles_give _
    · exact keepsFiles_bind (keepsFiles_exchange _) fun _ => keepsFiles_give _

theorem keepsFiles_credential (x : Executor) (id : String) :
    (x.credential id).run.KeepsFiles := by
  cases x with
  | echo => exact keepsFiles_give _
  | backend b => exact keepsFiles_bind (keepsFiles_exchange _) fun _ => keepsFiles_give _

/-- Running a test changes no file. -/
theorem keepsFiles_outcome (x : Executor) (f : Flight) : (x.outcome f).run.KeepsFiles := by
  unfold outcome
  split
  · exact x.keepsFiles_run _ _
  · exact keepsFiles_bind (x.keepsFiles_credential _) fun _ => x.keepsFiles_run _ _

theorem proper_of_run {x : Executor} {cancelled : Bool} {r : TestRequest} {world : Rehearsal}
    {v : Value} (h : (Rehearsal.run (x.run cancelled r).run world).2 = .ok v) : v.Proper := by
  cases x with
  | echo =>
    cases h
    exact Script.proper_echo r
  | backend b =>
    unfold Executor.run at h
    dsimp only at h
    split at h
    · cases h
    · obtain ⟨reply, -, hreply⟩ := ok_bind_iff.1 h
      exact Http.Reply.proper_output hreply

/-- Whatever an executor gives is proper. -/
theorem proper_of_outcome {x : Executor} {f : Flight} {world : Rehearsal} {v : Value}
    (h : (Rehearsal.run (x.outcome f).run world).2 = .ok v) : v.Proper := by
  unfold outcome at h
  split at h
  · exact proper_of_run h
  · obtain ⟨_, -, hrun⟩ := ok_bind_iff.1 h
    exact proper_of_run hrun

end Executor

/-! ## §2. The session. -/

/-- A workflow with one more output, or with another one. -/
def Workflow.withOutput (w : Workflow) (node : String) (v : Value) : Workflow :=
  { w with outputs := w.outputs.insert node v }

namespace Workflow

variable {w : Workflow} {node : String} {v : Value}

theorem validate_withOutput (h : w.validate = .ok ()) {n : Node} (hn : w.node? node = some n)
    (v : Value) : (w.withOutput node v).validate = .ok () := by
  rw [validate_eq_ok_iff] at h ⊢
  refine { h with outputs := fun id hid => ?_ }
  obtain ⟨hmem, hnid⟩ := mem_of_node?_eq_some hn
  rw [Table.mem_keys_iff] at hid
  unfold withOutput at hid
  rw [Table.get?_insert] at hid
  split at hid
  · next heq => exact ⟨n, hmem, hnid.trans heq.symm⟩
  · exact h.outputs id ((Table.mem_keys_iff _ _).2 hid)

theorem proper_withOutput (h : ∀ id u, w.outputs.get? id = some u → u.Proper) (hv : v.Proper) :
    ∀ id u, (w.withOutput node v).outputs.get? id = some u → u.Proper := by
  intro id u hu
  unfold withOutput at hu
  rw [Table.get?_insert] at hu
  split at hu
  · cases hu
    exact hv
  · exact h id u hu

/-- A workflow that was loaded is loaded again with one more output. -/
theorem ofYaml_withOutput {text : String} (h : ofYaml text = .ok w) {n : Node}
    (hn : w.node? node = some n) (hv : v.Proper) (hnumbers : ∀ n ∈ w.nodes, n.HasNumbers)
    (hback : Yaml.readsBack (w.withOutput node v).toDocument = true) :
    ofYaml (w.withOutput node v).toYaml = .ok (w.withOutput node v) := by
  obtain ⟨hvalid, hproper⟩ := of_ofYaml h
  have hnodes : ∀ n ∈ (w.withOutput node v).nodes, n.HasNumbers := hnumbers
  rw [ofYaml_toYaml hnodes (proper_withOutput hproper hv) hback, validate_withOutput hvalid hn]
  rfl

end Workflow

/-- A success in a store of outputs is one more output. -/
theorem Store.outputs_succeed_ofOutputs (outputs : Table Value) (node : String) (v : Value)
    (d : Nat) : ((ofOutputs outputs).succeed node v d).outputs = outputs.insert node v := by
  refine Table.ext_get? fun k => ?_
  rw [get?_outputs, Table.get?_insert, output?, get?_succeed]
  split
  · rfl
  · exact output?_ofOutputs k outputs

namespace Session

variable {w : Workflow} {clock node : String} {n : Node}

/-- The test of a node of a workflow, before anything was done with it. -/
def firstFlight (w : Workflow) (clock : String) (n : Node) (node : String) : Flight :=
  (ofWorkflow w).prepare clock n ⟨node, 0⟩

/-- The first test of a session is admitted if there is the node. -/
theorem start_ofWorkflow (hw : w.validate = .ok ()) (clock node : String) :
    (ofWorkflow w).start clock node = match w.node? node with
      | none => ({ ofWorkflow w with gate := (({} : Gate).enter node).release ⟨node, 0⟩ },
          .error (.nodeNotFound node))
      | some n => ((ofWorkflow w).launch (({} : Gate).enter node) (firstFlight w clock n node),
          .ok (firstFlight w clock n node)) := by
  have hids := ((w.validate_eq_ok_iff).1 hw).ids
  have hnode : (ofWorkflow w).graph.node? node = w.node? node :=
    FlowGraph.node?_ofWorkflow hids node
  have hgate : (ofWorkflow w).gate.acquire node = .ok (({} : Gate).enter node, ⟨node, 0⟩) := rfl
  unfold start
  rw [hgate, hnode]
  cases w.node? node <;> rfl

/-- What is kept of the first test of a session is its result. -/
theorem finish_first (f : Flight) (hf : f.permit = ⟨node, 0⟩) (r : Except Error Value) :
    let s := (ofWorkflow w).launch (({} : Gate).enter node) f
    s.finish f r 0 = ((s.commit f r 0).land f, r) := by
  intro s
  have hmay : s.gate.mayCommit f.permit = true := by
    rw [gate_launch, hf, Gate.mayCommit_iff]
    exact ⟨by simp, by simp⟩
  unfold finish
  rw [if_pos hmay]

/-- A first test that gives an output leaves the workflow with it. -/
theorem snapshot_first (f : Flight) (hf : f.permit = ⟨node, 0⟩) (v : Value) :
    let s := (ofWorkflow w).launch (({} : Gate).enter node) f
    ((s.commit f (.ok v) 0).land f).snapshot = w.withOutput node v := by
  intro s
  have hstore : ((s.commit f (.ok v) 0).land f).store =
      (Store.ofOutputs w.outputs).succeed node v 0 := by
    show (Store.ofOutputs w.outputs).succeed f.permit.node v 0 = _
    rw [hf]
  have hworkflow : ((s.commit f (.ok v) 0).land f).workflow = w := by simp [s, ofWorkflow]
  unfold snapshot Workflow.withOutput
  rw [hstore, hworkflow, Store.outputs_succeed_ofOutputs]

end Session

/-! ## §3. The command. -/

namespace Command

open Plan.Fallible
open Session (firstFlight)

variable {w : Workflow} {v : Value} {world : Rehearsal} {clock place file node : String}
  {lookup? : String → Option String} {mock save : Bool}

/-- A node that is there is tested with what its executor gives. -/
theorem run_testNode (hw : w.validate = .ok ()) (clock node : String) (x : Executor)
    (world : Rehearsal) : run (testNode clock x w node).run world =
      match w.node? node with
      | none => (world, .error (.nodeNotFound node))
      | some n =>
        match run (x.outcome (firstFlight w clock n node)).run world with
        | (after, .ok v) => (after, .ok (v, w.withOutput node v))
        | (after, .error e) => (after, .error e) := by
  unfold testNode
  rw [run_bind, run_lift]
  unfold Session.test
  rw [Session.start_ofWorkflow hw]
  cases w.node? node with
  | none => rfl
  | some n =>
    dsimp only
    rw [Rehearsal.run_bind]
    obtain ⟨after, result⟩ := run (x.outcome (firstFlight w clock n node)).run world
    dsimp only [run]
    rw [Session.finish_first _ rfl]
    cases result with
    | error e => rfl
    | ok v =>
      dsimp only
      rw [Session.snapshot_first _ rfl]
      rfl

/-- What a test does once it has its output: it prints it, and if it was asked
to, it writes the workflow and says so. -/
def conclude (file : String) (save : Bool) (v : Value) (after : Workflow) : Fallible Unit := do
  Plan.printAll [v.pretty]
  if save then
    Plan.replaceText file after.toYaml
    Plan.printAll ["✓ saved " ++ file]

theorem plan_test_eq (clock : String) (settings : Settings) (file node : String)
    (mock save : Bool) : (test file node mock save).plan clock settings = (do
      let w ← workflowIn file
      let x ← Plan.give (executor settings mock)
      Plan.printAll ["→ testing " ++ node ++ "..."]
      let r ← testNode clock x w node
      conclude file save r.1 r.2) := rfl

theorem run_settings (place : String) (lookup? : String → Option String) (world : Rehearsal) :
    run (CommandLine.settings place lookup?).run world =
      (world, (Settings.ofFile (world.folder.read place)).map (·.withVariables lookup?)) := by
  unfold CommandLine.settings
  have hload : run (Settings.load place).run world =
      (world, Settings.ofFile (world.folder.read place)) := rfl
  rw [run_bind, hload]
  cases Settings.ofFile (world.folder.read place) <;> rfl

theorem run_printLine (line : String) (world : Rehearsal) :
    run (liftM (Plan.printAll [line]) : Fallible Unit).run world =
      (world.saying line, .ok ()) := run_lift _ _

/-- The test of a node in a session file has all it needs, and comes to an
output: settings and file can be read, there is an executor and the node, and
the executor gives the output. -/
inductive Gives (world : Rehearsal) (clock place : String) (lookup? : String → Option String)
    (file node : String) (mock : Bool) (w : Workflow) (v : Value) : Prop where
  | intro {s : Settings} {text : String} {x : Executor} {n : Node}
      (hsettings : Settings.ofFile (world.folder.read place) = .ok s)
      (hread : world.folder.read file = .ok text)
      (hload : Workflow.ofYaml text = .ok w)
      (hexecutor : executor (s.withVariables lookup?) mock = .ok x)
      (hnode : w.node? node = some n)
      (houtput : (world.perform (x.outcome (firstFlight w clock n node)).run).2 = .ok v)

/-- What a command does, under the settings at a place. -/
def underSettings (clock place : String) (lookup? : String → Option String) (c : Command) :
    Fallible Unit := do
  c.plan clock (← CommandLine.settings place lookup?)

/-- A test that comes to an output concludes with it, over the same files. -/
theorem Gives.run_test (h : Gives world clock place lookup? file node mock w v) (save : Bool) :
    ∃ told : Rehearsal, told.folder = world.folder ∧
      run (underSettings clock place lookup? (.test file node mock save)).run world =
        run (conclude file save v (w.withOutput node v)).run told := by
  obtain @⟨s, text, x, n, hsettings, hread, hload, hexecutor, hnode, houtput⟩ := h
  have hvalid := (Workflow.of_ofYaml hload).1
  let asked := world.saying ("→ testing " ++ node ++ "...")
  -- the executor meets the same files and replies behind the line that is printed
  have hresult : run (x.outcome (firstFlight w clock n node)).run asked =
      ((run (x.outcome (firstFlight w clock n node)).run asked).1, .ok v) := by
    exact Prod.ext rfl ((Rehearsal.run_saying _ world _).trans houtput)
  refine ⟨_, x.keepsFiles_outcome (firstFlight w clock n node) asked, ?_⟩
  unfold underSettings
  rw [run_bind, run_settings, hsettings]
  dsimp only [Except.map]
  rw [plan_test_eq, run_bind, run_workflowIn, hread]
  dsimp only
  rw [hload]
  dsimp only
  rw [run_bind, hexecutor]
  dsimp only [Plan.give, ExceptT.run_mk, run]
  rw [run_bind, run_printLine]
  dsimp only
  rw [run_bind, run_testNode hvalid, hnode]
  dsimp only
  rw [hresult]

/-- A test that succeeds came to an output. -/
theorem exists_gives
    (h : (run (underSettings clock place lookup? (.test file node mock save)).run world).2 =
      .ok ()) :
    ∃ w v, Gives world clock place lookup? file node mock w v := by
  unfold underSettings at h
  obtain ⟨s, hs, h⟩ := (ok_look_iff (run_settings place lookup? world)).1 h
  obtain ⟨s, hsettings, rfl⟩ := map_eq_ok_iff.1 hs
  rw [plan_test_eq] at h
  obtain ⟨w, hw, h⟩ := (ok_look_iff (run_workflowIn file world)).1 h
  obtain ⟨x, hexecutor, h⟩ := (ok_look_iff rfl).1 h
  obtain ⟨_, -, h⟩ := ok_bind_iff.1 h
  rw [run_printLine] at h
  obtain ⟨r, hr, -⟩ := ok_bind_iff.1 h
  cases hread : world.folder.read file with
  | error fault =>
    rw [hread] at hw
    cases hw
  | ok text =>
    rw [hread] at hw
    rw [run_testNode (Workflow.of_ofYaml hw).1] at hr
    cases hnode : w.node? node with
    | none =>
      rw [hnode] at hr
      cases hr
    | some n =>
      rw [hnode] at hr
      dsimp only at hr
      split at hr
      · next after v hrun =>
        refine ⟨w, v, .intro hsettings hread hw hexecutor hnode ?_⟩
        exact (Rehearsal.run_saying _ world _).symm.trans (congrArg Prod.snd hrun)
      · cases hr

theorem run_conclude_unsaved (file : String) (v : Value) (after : Workflow) (world : Rehearsal) :
    run (conclude file false v after).run world = (world.saying v.pretty, .ok ()) := by
  unfold conclude
  rw [run_bind, run_printLine]
  rfl

theorem run_conclude_saved {after : Workflow} {folder : Folder}
    (hwrite : world.folder.write file after.toYaml = .ok folder) (v : Value) :
    run (conclude file true v after).run world =
      ({ world.saying v.pretty with folder := folder }.saying ("✓ saved " ++ file), .ok ()) := by
  have hreplace : run (Plan.replaceText file after.toYaml).run (world.saying v.pretty) =
      ({ world.saying v.pretty with folder := folder }, .ok ()) := by
    simp only [Plan.replaceText, ExceptT.run_mk, run, show (world.saying v.pretty).folder.write file
      after.toYaml = .ok folder from hwrite]
    rfl
  unfold conclude
  rw [run_bind, run_printLine]
  dsimp only
  rw [if_pos rfl, run_bind, hreplace]
  exact run_printLine _ _

/-! ## §4. The files. -/

theorem keepsFiles_testNode (clock : String) (x : Executor) (w : Workflow) (node : String) :
    (testNode clock x w node).run.KeepsFiles := by
  have htest : ((Session.ofWorkflow w).test clock x node).KeepsFiles := by
    unfold Session.test
    split
    · exact Plan.keepsFiles_done _
    · exact (x.keepsFiles_outcome _).bind fun _ => Plan.keepsFiles_done _
  exact keepsFiles_bind (keepsFiles_lift htest) fun _ =>
    keepsFiles_bind (keepsFiles_give _) fun _ => Plan.keepsFiles_done _

/-- What a test does once it has its output fails before it writes or not at
all. -/
theorem allOrNothing_conclude (file : String) (save : Bool) (v : Value) (after : Workflow) :
    AllOrNothing (conclude file save v after) := by
  refine .after (keepsFiles_lift (Plan.keepsFiles_printAll _)) fun _ => ?_
  split
  · exact .before (allOrNothing_replaceText file after.toYaml)
  · exact .of_keepsFiles (Plan.keepsFiles_done _)

/-- A test that fails leaves the files as they were. -/
theorem allOrNothing_test (clock place : String) (lookup? : String → Option String)
    (file node : String) (mock save : Bool) :
    AllOrNothing (underSettings clock place lookup? (.test file node mock save)) := by
  refine .after (fun world => by rw [run_settings]) fun s => ?_
  rw [plan_test_eq]
  refine .after (fun world => by rw [run_workflowIn]) fun w => ?_
  refine .after (keepsFiles_give _) fun x => ?_
  refine .after (keepsFiles_lift (Plan.keepsFiles_printAll _)) fun _ => ?_
  exact .after (keepsFiles_testNode clock x w node) fun r => allOrNothing_conclude file save r.1 r.2

/-! ## §5. The theorem. -/

/-- Telling of a failure changes no file, and the exit code tells whether there
was one. -/
theorem run_carryOut (clock place : String) (lookup? : String → Option String) (c : Command)
    (world : Rehearsal) :
    let ran := run (CommandLine.carryOut clock place lookup? c) world
    let plain := run (c.underSettings clock place lookup?).run world
    (ran.2 = 0 ↔ plain.2 = .ok ()) ∧ ran.1.folder = plain.1.folder := by
  unfold CommandLine.carryOut underSettings
  dsimp only
  rw [Rehearsal.run_bind]
  generalize run (ExceptT.run (CommandLine.settings place lookup? >>= c.plan clock)) world = plain
  obtain ⟨after, result⟩ := plain
  cases result with
  | ok _ => exact ⟨⟨fun _ => rfl, fun _ => rfl⟩, rfl⟩
  | error e =>
    dsimp only
    rw [Rehearsal.run_bind]
    exact ⟨⟨nofun, nofun⟩, Plan.keepsFiles_noteAll _ after⟩

/-- What is left when a test came to an output. -/
theorem Gives.carryOut (h : Gives world clock place lookup? file node mock w v) (save : Bool) :
    let ran := run (CommandLine.carryOut clock place lookup? (.test file node mock save)) world
    ran.2 = 0 ∧ (save = false → ran.1.folder = world.folder) ∧
      (save = true → ran.1.folder.read file = .ok (w.withOutput node v).toYaml ∧
        ∀ other, world.folder.find other ≠ world.folder.find file →
          ran.1.folder.read other = world.folder.read other) := by
  intro ran
  obtain ⟨hcode, hfolder⟩ := run_carryOut clock place lookup? (.test file node mock save) world
  obtain ⟨told, htold, hrun⟩ := h.run_test save
  obtain ⟨-, hread, -⟩ := h
  rw [← htold] at hread ⊢
  obtain ⟨folder, hwrite, hsaved, hothers⟩ :=
    Folder.write_of_read hread (w.withOutput node v).toYaml
  rw [hrun] at hcode hfolder
  cases save with
  | false =>
    rw [run_conclude_unsaved] at hcode hfolder
    exact ⟨hcode.2 rfl, fun _ => hfolder, nofun⟩
  | true =>
    rw [run_conclude_saved hwrite] at hcode hfolder
    have hran : ran.1.folder = folder := hfolder
    rw [hran]
    exact ⟨hcode.2 rfl, nofun, fun _ => ⟨hsaved, hothers⟩⟩

/-- **A test is saved as a whole or not at all.**  A node of a session file is
tested, with an echo or with the backend of the settings, in any world.

* The command succeeds exactly if the test comes to an output.
* If it fails, or was not asked to save, no file changes.
* If it saves, the file holds the workflow with the output as that of the
  node, and what is elsewhere is as before.  A text that reads back is loaded
  as this workflow: with the nodes and edges of before, in order, and the
  outputs of before, but for the one of the node. -/
theorem saved_whole_or_not_at_all (world : Rehearsal) (clock place : String)
    (lookup? : String → Option String) (file node : String) (mock save : Bool) :
    let ran := world.perform (CommandLine.carryOut clock place lookup? (.test file node mock save))
    (ran.2 = 0 ↔ ∃ w v, Gives world clock place lookup? file node mock w v) ∧
    (ran.2 ≠ 0 ∨ save = false → ran.1.folder = world.folder) ∧
    ∀ w v, Gives world clock place lookup? file node mock w v → save = true →
      ran.1.folder.read file = .ok (w.withOutput node v).toYaml ∧
      (∀ other, world.folder.find other ≠ world.folder.find file →
        ran.1.folder.read other = world.folder.read other) ∧
      ((∀ n ∈ w.nodes, n.HasNumbers) → Yaml.readsBack (w.withOutput node v).toDocument = true →
        ∃ again, Workflow.ofYaml (w.withOutput node v).toYaml = .ok again ∧
          again.nodes = w.nodes ∧ again.edges = w.edges ∧
          ∀ id, again.outputs.get? id = if id = node then some v else w.outputs.get? id) := by
  intro ran
  obtain ⟨hcode, hfolder⟩ := run_carryOut clock place lookup? (.test file node mock save) world
  refine ⟨⟨fun h => exists_gives (hcode.1 h), ?_⟩, ?_, ?_⟩
  · rintro ⟨w, v, hgives⟩
    exact (hgives.carryOut save).1
  · intro h
    by_cases hzero : ran.2 = 0
    · obtain ⟨w, v, hgives⟩ := exists_gives (hcode.1 hzero)
      exact (hgives.carryOut save).2.1 (h.resolve_left (not_not.2 hzero))
    · -- it failed, so it failed before it wrote
      have hkept := allOrNothing_test clock place lookup? file node mock save world
      cases hresult : (run (underSettings clock place lookup? (.test file node mock save)).run
        world).2 with
      | ok _ => exact absurd (hcode.2 hresult) hzero
      | error e => exact hfolder.trans (hkept e hresult)
  · intro w v hgives hsave
    obtain ⟨hsaved, hothers⟩ := (hgives.carryOut save).2.2 hsave
    refine ⟨hsaved, hothers, fun hnumbers hback => ⟨w.withOutput node v, ?_, rfl, rfl, ?_⟩⟩
    · obtain ⟨-, -, hload, -, hnode, houtput⟩ := hgives
      -- an improper output would be written, but not read back
      have hproper : v.Proper := Executor.proper_of_outcome houtput
      exact Workflow.ofYaml_withOutput hload hnode hproper hnumbers hback
    · intro id
      exact Table.get?_insert w.outputs node id v

/-- A session file of one node, in a folder of its own, and its workflow. -/
def oneNodeText : String := "nodes: [\x7bid: a, name: A, type: manual\x7d]"
def oneNodeFolder : Folder := ⟨Table.ofList [("s", oneNodeText)]⟩
def oneNode : Workflow := { nodes := [⟨"a", "A", .manual⟩] }

theorem ofYaml_oneNodeText : Workflow.ofYaml oneNodeText = .ok oneNode := by
  have hread : (Workflow.ofYaml oneNodeText).toOption.any (fun w =>
      w.nodes = oneNode.nodes && w.edges = [] && w.outputs.isEmpty) = true := by
    decide +kernel
  obtain ⟨w, hw, hfacts⟩ := (Option.any_eq_true _ _).1 hread
  simp only [Bool.and_eq_true, decide_eq_true_eq] at hfacts
  obtain ⟨⟨hnodes, hedges⟩, houtputs⟩ := hfacts
  have hone : w = oneNode := by
    obtain ⟨nodes, edges, outputs⟩ := w
    simp only at hnodes hedges houtputs
    rw [hnodes, hedges, Table.eq_empty_of_isEmpty houtputs]
    rfl
  cases h : Workflow.ofYaml oneNodeText with
  | error e =>
    rw [h] at hw
    cases hw
  | ok u =>
    rw [h] at hw
    cases hw
    rw [hone]

/-- The one node is tested with an echo and saved: the file is loaded with the
echo as its output.  Without being asked to save, or for a node that is not
there, the test changes nothing. -/
theorem echo_saved_in_folder :
    let world : Rehearsal := { folder := oneNodeFolder }
    let ran (node : String) (save : Bool) := world.perform
      (CommandLine.carryOut "" "" (fun _ => none) (.test "s" node true save))
    let echo : Value := .object [("node_id", .str "a"), ("config", NodeConfig.manual.toValue)]
    (ran "a" false).1.folder = oneNodeFolder ∧ (ran "b" true).1.folder = oneNodeFolder ∧
      (ran "a" true).2 = 0 ∧
      (ran "a" true).1.folder.read "s" = .ok (oneNode.withOutput "a" echo).toYaml ∧
      ∃ again, Workflow.ofYaml (oneNode.withOutput "a" echo).toYaml = .ok again ∧
        again.nodes = oneNode.nodes ∧ again.outputs.get? "a" = some echo := by
  intro world ran echo
  have hread : oneNodeFolder.read "s" = .ok oneNodeText := Folder.read_alone oneNodeText
  have hsettings : Settings.ofFile (world.folder.read "") = .ok {} := by
    rw [Folder.read_empty]
    rfl
  have hgives : Gives world "" "" (fun _ => none) "s" "a" true oneNode echo :=
    .intro (x := .echo) hsettings hread ofYaml_oneNodeText rfl rfl rfl
  -- there is no other node that could give an output
  have hnone : (ran "b" true).2 ≠ 0 := by
    intro h
    obtain ⟨w, v, hgives⟩ := (saved_whole_or_not_at_all world "" "" _ "s" "b" true true).1.1 h
    obtain ⟨-, htext, hload, -, hnode, -⟩ := hgives
    rw [show world.folder.read "s" = _ from hread] at htext
    cases htext
    rw [ofYaml_oneNodeText] at hload
    cases hload
    cases hnode
  obtain ⟨-, hunsaved, -⟩ := saved_whole_or_not_at_all world "" "" _ "s" "a" true false
  obtain ⟨-, hunknown, -⟩ := saved_whole_or_not_at_all world "" "" _ "s" "b" true true
  obtain ⟨hcode, -, hsaves⟩ := saved_whole_or_not_at_all world "" "" _ "s" "a" true true
  obtain ⟨hsaved, -, hloaded⟩ := hsaves oneNode echo hgives rfl
  have hnumbers : ∀ n ∈ oneNode.nodes, n.HasNumbers := by
    intro n hn x hx
    obtain rfl := List.mem_singleton.1 hn
    cases hx
  have hback : Yaml.readsBack (oneNode.withOutput "a" echo).toDocument = true := by
    decide +kernel
  obtain ⟨again, hagain, hnodes, -, houtputs⟩ := hloaded hnumbers hback
  refine ⟨hunsaved (.inr rfl), hunknown (.inl hnone), hcode.2 ⟨_, _, hgives⟩, hsaved, again, hagain,
    hnodes, ?_⟩
  rw [houtputs, if_pos rfl]

end Command

end FlowBench
