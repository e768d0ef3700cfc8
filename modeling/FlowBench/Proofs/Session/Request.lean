/-
  FlowBench.Proofs.Session.Request
  ────────────────────────────────
  **What an executor is asked was taken down at the start of the test.**

  Between its start and the call of its executor a test may wait for a
  credential while the session is edited and other tests come and go.  The
  request shows nothing of that: it is told by the session as it was when the
  test started (`request_tells_the_start`), and by what was recorded then.
  Of the node of a test that still runs nothing that a test starts with is
  recorded after its own start (`record_since_run`), so the record alone says
  which events these are.
-/
import Mathlib.Data.List.Infix
import FlowBench.Proofs.Node.Texts
import FlowBench.Proofs.Session.Accounting
import FlowBench.Proofs.Session.Warnings
import FlowBench.Proofs.Template.Resolve

namespace FlowBench

/-! ## §1. What is said of a moment. -/

/-- The executor is asked for the test with a number, once a source has been
heard on the credential that it may wait for. -/
def Moment.Asks (m : Moment) (number : Nat) (source : String → Except Error Value)
    (r : TestRequest) : Prop :=
  (∃ duration, m.act = .resume number (.credentials source) duration) ∧
    m.answer = .resumed (.asks r)

/-- An event is one of those that a test of a node starts with. -/
def EventKind.opens (node : String) : EventKind → Bool
  | .testStarted n _ => n = node
  | .templateResolved n _ _ _ => n = node
  | _ => false

/-- A text after resolution. -/
def Template.resolved (clock : String) (u : Context) (text : String) : String :=
  (Template.resolve clock u text).text

namespace Session

variable {s s' : Session} {a : Act} {answer : Answer} {f : Flight}

/-! ## §2. The record of a test that still runs. -/

theorem opens_of_mem_startEvents {id node : String} {u : Context} {c : ResolvedConfig}
    {k : EventKind} (h : k ∈ startEvents id u c) (hne : id ≠ node) : k.opens node = false := by
  unfold startEvents at h
  obtain rfl | h := List.mem_cons.1 h
  · exact decide_eq_false hne
  · obtain ⟨x, -, rfl⟩ := List.mem_map.1 h
    exact decide_eq_false hne

/-- While a test runs, no other test of its node starts. -/
theorem Step.record_since (hs : Step s a s' answer) (hb : s.Booked) (hf : f ∈ s.flights)
    (hsilent : f.permit.number ∉ s.gate.fired) :
    ∃ since, s'.record = s.record ++ since ∧ ∀ k ∈ since, k.opens f.permit.node = false := by
  have hnone : ∃ since, s.record = s.record ++ since ∧
      ∀ k ∈ since, k.opens f.permit.node = false := ⟨[], (List.append_nil _).symm, by simp⟩
  have hone : ∀ {t : Session} {k : EventKind}, t.record = s.record ++ [k] →
      k.opens f.permit.node = false →
      ∃ since, t.record = s.record ++ since ∧ ∀ k ∈ since, k.opens f.permit.node = false :=
    fun {_ k} ht hk => ⟨[k], ht, fun x hx => (List.mem_singleton.1 hx) ▸ hk⟩
  cases hs with
  | stray | waiting | asking | idle | notAdded | notRenamed | notRemoved | notConnected => exact hnone
  | unknown | cancelled => exact hnone
  | rejected => exact hone (record_emit _ _) rfl
  | added => exact hone (record_emit _ _) rfl
  | renamed => exact hone (record_emit _ _) rfl
  | removed => exact hone (record_emit _ _) rfl
  | connected =>
    split
    · exact hone (record_emit _ _) rfl
    · exact hnone
  | abandoned => exact hone (record_abandon _ _) rfl
  | @settled _ _ _ g r =>
    refine hone (record_commit _ _ _ _) ?_
    cases r <;> rfl
  | @started clock id n hrun =>
    refine ⟨_, record_launch _ _ _, fun k hk => opens_of_mem_startEvents hk ?_⟩
    -- the entry of the node is held by the test that runs
    intro hid
    rw [permit_prepare] at hid
    have hheld := hb.silent f hf hsilent
    rw [← hid, (Gate.isRunning_eq_false_iff _ _).1 hrun] at hheld
    cases hheld

/-- **While a test runs, nothing that a test of its node starts with is
recorded.** -/
theorem record_since_run : ∀ (acts : List Act) {s : Session}, s.Booked → f ∈ s.flights →
    (∀ m ∈ s.moments acts, ¬ m.Returns f.permit.number) →
    f.permit.number ∉ (s.run acts).gate.fired →
    ∃ since, (s.run acts).record = s.record ++ since ∧
      ∀ k ∈ since, k.opens f.permit.node = false
  | [], s, _, _, _, _ => ⟨[], (List.append_nil _).symm, by simp⟩
  | a :: rest, s, hb, hf, hopen, hsilent => by
    have hs := step_perform s a
    -- a signal that is silent in the end was silent before
    have hstill : f.permit.number ∉ s.gate.fired :=
      fun h => hsilent ((run_under_way (a :: rest) hb hf hopen).2.2.2 (.inl h))
    have hfirst : ¬ (s.moment a).Returns f.permit.number := hopen _ List.mem_cons_self
    obtain ⟨ks, hks, hold⟩ := hs.record_since hb hf hstill
    obtain ⟨more, hmore, hnew⟩ := record_since_run rest (hs.booked hb) (hs.mem_flights hf hfirst)
      (fun m hm => hopen m (List.mem_cons_of_mem _ hm)) hsilent
    refine ⟨ks ++ more, ?_, ?_⟩
    · show ((s.perform a).1.run rest).record = _
      rw [hmore, hks, List.append_assoc]
    · intro k hk
      obtain hk | hk := List.mem_append.1 hk
      · exact hold k hk
      · exact hnew k hk

/-! ## §3. The call of the executor. -/

/-- A moment of a run comes after the acts before it. -/
theorem exists_run_of_mem_moments {m : Moment} : ∀ (acts : List Act) {s : Session},
    m ∈ s.moments acts → ∃ before after,
      acts = before ++ m.act :: after ∧ m = (s.run before).moment m.act
  | [], _, hm => by cases hm
  | a :: rest, s, hm => by
    obtain rfl | hm := List.mem_cons.1 hm
    · exact ⟨[], rest, rfl, rfl⟩
    · obtain ⟨before, after, hacts, heq⟩ := exists_run_of_mem_moments rest hm
      exact ⟨a :: before, after, congrArg (List.cons a) hacts, heq⟩

theorem Step.of_asks {number d : Nat} {source : String → Except Error Value} {r : TestRequest}
    (hs : Step s (.resume number (.credentials source) d) s' (.resumed (.asks r))) :
    ∃ f c, s.flight? number = some f ∧ s.gate.isCancelled f.permit = false ∧
      f.credentials source = .ok c ∧ r = f.request c := by
  cases hs with
  | asking hf hc hcred => exact ⟨_, _, hf, hc, hcred, rfl⟩

/-- A test that runs calls its executor once it is woken with a source that
has what it waits for. -/
theorem asks_moment {number : Nat} {source : String → Except Error Value} {c : Option Value}
    (hf : s.flight? number = some f) (hc : s.gate.isCancelled f.permit = false)
    (hcred : f.credentials source = .ok c) (d : Nat) :
    (s.moment (.resume number (.credentials source) d)).Asks number source (f.request c) := by
  refine ⟨⟨d, rfl⟩, ?_⟩
  simp only [moment, perform, hf, resume, hc, hcred]
  rfl

/-- **A test calls its executor while it runs, with what it took down.** -/
theorem asks_of_mem_flights (hb : s.Booked) (hf : f ∈ s.flights) {acts : List Act} {m : Moment}
    (hm : m ∈ s.moments acts) {source : String → Except Error Value} {r : TestRequest}
    (hasks : m.Asks f.permit.number source r) :
    (∃ c, f.credentials source = .ok c ∧ r = f.request c) ∧
      ∃ since, m.before.record = s.record ++ since ∧
        ∀ k ∈ since, k.opens f.permit.node = false := by
  obtain ⟨before, after, -, heq⟩ := exists_run_of_mem_moments acts hm
  obtain ⟨⟨d, hact⟩, hanswer⟩ := hasks
  -- A test that had returned would be a stray.
  have hopen : ∀ m' ∈ s.moments before, ¬ m'.Returns f.permit.number := by
    intro m' hm' hreturns
    have hgone := gone_of_returned before hb hm' hreturns
    have hwakes : m.Wakes f.permit.number := ⟨_, _, hact⟩
    have hstray := (run_gone [m.act] hgone m (heq ▸ List.mem_singleton_self _) hwakes).1
    rw [hanswer] at hstray
    cases hstray
  obtain ⟨hb', hf', -⟩ := run_under_way before hb hf hopen
  have hbefore : m.before = s.run before := congrArg Moment.before heq
  have hstep := step_of_mem_moments acts hm
  rw [hact, hanswer, hbefore] at hstep
  obtain ⟨g, c, hg, hc, hcred, hr⟩ := hstep.of_asks
  rw [hb'.flight?_eq hf'] at hg
  obtain rfl := Option.some.inj hg
  refine ⟨⟨c, hcred, hr⟩, ?_⟩
  rw [hbefore]
  exact record_since_run before hb hf hopen ((Gate.isCancelled_eq_false_iff _ _).1 hc)

/-- A bundle comes with a request exactly if one is asked for, and it is what
the source gave. -/
theorem credentials_of_request {source : String → Except Error Value} {c : Option Value}
    (h : f.credentials source = .ok c) :
    match f.credentialId with
    | none => c = none
    | some id => ∃ v, source id = .ok v ∧ c = some v := by
  unfold Flight.credentials at h
  cases hid : f.credentialId with
  | none =>
    rw [hid] at h
    exact (Except.ok.inj h).symm
  | some id =>
    rw [hid] at h
    change (source id).map some = .ok c at h
    cases hsource : source id with
    | error e =>
      rw [hsource] at h
      cases h
    | ok v =>
      rw [hsource] at h
      exact ⟨v, hsource, (Except.ok.inj h).symm⟩

/-! ## §4. The start. -/

/-- What a test that starts takes down and records. -/
theorem Step.flight_of_started {clock id : String}
    (hs : Step s (.test clock id) s' (.tested (.ok f))) :
    ∃ n, s.graph.node? id = some n ∧ f = s.prepare clock n ⟨id, s.gate.next⟩ ∧
      s'.record = s.record ++ startEvents id f.context f.resolved := by
  cases hs with
  | started _ hn => exact ⟨_, hn, rfl, record_launch _ _ _⟩

/-- What a test starts with tells how its configuration was resolved. -/
theorem startEvents_resolve (clock id : String) (u : Context) (c : NodeConfig) :
    startEvents id u (c.resolve clock u) = .testStarted id u.toValue ::
      NodeConfig.changes id (fun _ text => Template.resolved clock u text)
        (c.texts.filter fun x => Template.hasOpening x.2.toList) := by
  unfold startEvents NodeConfig.resolve NodeConfig.changes
  rw [List.map_map]
  rfl

/-- What is recorded of a resolution puts the resolved configuration back. -/
theorem foldl_refill_resolve (clock id : String) (u : Context) (c : NodeConfig) :
    (NodeConfig.changes id (fun _ text => Template.resolved clock u text)
      (c.texts.filter fun x => Template.hasOpening x.2.toList)).foldl NodeConfig.refill c =
        (c.resolve clock u).config := by
  refine NodeConfig.foldl_refill_filter id (p := fun text => Template.hasOpening text.toList) ?_
  intro x _ hnone
  unfold Template.resolved Template.resolve
  rw [hnone]
  rfl

/-! ## §5. The theorem. -/

/-- **A request tells the session in which its test started.**  A test of a
node starts after any `past`; `later` the session is edited, other tests
settle and are cancelled, and at some moment the executor is asked for the
test.  Then the request has the name of the node, its resolved configuration
and what it saw, as the session showed them at the start; the record tells
the same context and, one by one in order, the texts with an opening and what
became of them.  These events are the last that a test of the node started
with; they name no text twice, and putting them back one after the other into
the configuration that the node had gives the one of the request, with every
text resolved.  A bundle comes with it exactly if that configuration names a
credential, and it is the one that the source gave for it. -/
theorem request_tells_the_start (w : Workflow) (h : w.validate = .ok ()) (past later : List Act)
    (clock node : String) (s₁ : Session) (f : Flight)
    (hstart : ((ofWorkflow w).run past).perform (.test clock node) = (s₁, .tested (.ok f)))
    (m : Moment) (hm : m ∈ s₁.moments later) (source : String → Except Error Value)
    (r : TestRequest) (hasks : m.Asks f.permit.number source r) :
    let s := (ofWorkflow w).run past
    ∃ n u c told since,
      s.node node = .ok n ∧ s.context node = .ok u ∧ s.resolve clock node = .ok c ∧
      r.node = node ∧ r.name = n.name ∧ r.config = c.config ∧ r.context = u.toValue ∧
      m.before.record = s.record ++ .testStarted node r.context :: told ++ since ∧
      (∀ k ∈ since, k.opens node = false) ∧
      told = ((n.config.texts.filter fun x => ['{', '{'] <:+: x.2.toList).map fun x =>
        .templateResolved node x.1 x.2 (Template.resolved clock u x.2)) ∧
      n.config.textNames.Nodup ∧
      told.foldl NodeConfig.refill n.config = r.config ∧
      r.config.texts = n.config.texts.map (fun x => (x.1, Template.resolved clock u x.2)) ∧
      r.config.credentialId = n.config.credentialId ∧
      (match r.config.credentialId with
        | none => r.credentials = none
        | some id => ∃ v, source id = .ok v ∧ r.credentials = some v) := by
  intro s
  have hs : Step s (.test clock node) s₁ (.tested (.ok f)) := step_of_perform hstart
  have hbooked : s.Booked := booked_run w past
  have hsound : s.Sound := sound_run ((Workflow.validate_eq_ok_iff w).1 h) past
  -- What the test took down is what `prepare` finds in `s`, and the request is
  -- made from that alone.
  obtain ⟨-, -, hmem, -⟩ := hs.of_started
  obtain ⟨n, hn, rfl, hrecord⟩ := hs.flight_of_started
  obtain ⟨⟨c, hcred, rfl⟩, since, hbefore, hsince⟩ :=
    asks_of_mem_flights (hs.booked hbooked) hmem hm hasks
  have hnode : s.node node = .ok n := by rw [Session.node, hn]
  have hid : n.id = node := by
    rw [hsound.indexed, FlowGraph.node?_ofWorkflow hsound.valid.ids] at hn
    exact (Workflow.mem_of_node?_eq_some hn).2
  have hopening : (n.config.texts.filter fun x => Template.hasOpening x.2.toList) =
      n.config.texts.filter fun x => ['{', '{'] <:+: x.2.toList := by
    refine List.filter_congr fun x _ => ?_
    rw [Bool.eq_iff_iff, Template.hasOpening_iff, decide_eq_true_iff]
  let u := s.graph.collect s.store node
  refine ⟨n, u, n.config.resolve clock u, _, since, hnode, ?_, ?_, hid, rfl, rfl, rfl, ?_, hsince,
    rfl, n.config.nodup_textNames, ?_, ?_, ?_, ?_⟩
  · rw [context, hnode]
    rfl
  · rw [resolve, hnode]
    rfl
  · rw [hbefore, hrecord, ← hopening]
    exact congrArg (fun ks => s.record ++ ks ++ since) (startEvents_resolve clock node u n.config)
  · rw [← hopening]
    exact foldl_refill_resolve clock node u n.config
  · exact NodeConfig.texts_mapTexts (fun _ => Template.resolved clock u) n.config
  · exact NodeConfig.credentialId_mapTexts (fun _ => Template.resolved clock u) n.config
  · exact credentials_of_request hcred

/-- While a test waits for its credential its node and the node before it get
other names and the latter another output; the request has the name and the
configuration of the start. -/
theorem request_after_edits :
    let c : HttpRequest := { url := "https://host/\x7b\x7b A \x7d\x7d", credentialId := some "key" }
    let w : Workflow :=
      { nodes := [⟨"a", "A", .manual⟩, ⟨"n", "N", .httpRequest c⟩]
        edges := [.connect "a" "n" none]
        outputs := Table.empty.insert "a" (.str "x") }
    let source : String → Except Error Value := fun id => .ok (.str id)
    let later : List Act :=
      [.renameNode "n" "M", .renameNode "a" "B", .test "" "a",
        .resume 1 (.result (.ok (.str "y"))) 7, .resume 0 (.credentials source) 9]
    let start := ((ofWorkflow w).run []).perform (.test "" "n")
    w.validate = .ok () ∧ ∃ f m r, start = (start.1, .tested (.ok f)) ∧
      m ∈ start.1.moments later ∧ m.Asks f.permit.number source r ∧
      (m.before.node "n").map Node.name = .ok "M" ∧
      r.name = "N" ∧ r.config = .httpRequest { c with url := "https://host/x" } ∧
      r.credentials = some (.str "key") := by
  intro c w source later start
  have h : w.validate = .ok () := by decide +kernel
  let f : Flight := (ofWorkflow w).prepare "" ⟨"n", "N", .httpRequest c⟩ ⟨"n", 0⟩
  let m : Moment := (start.1.run (later.take 4)).moment
    (.resume f.permit.number (.credentials source) 9)
  have hstart : start = (start.1, .tested (.ok f)) :=
    Prod.ext rfl (started_of_free (by decide +kernel) (by decide +kernel))
  have hm : m ∈ start.1.moments later := List.mem_of_getElem? (i := 4) rfl
  -- Nobody has woken the test before, so it is still under way.
  have hstep : Step (ofWorkflow w) (.test "" "n") start.1 (.tested (.ok f)) :=
    step_of_perform hstart
  have hbooked : start.1.Booked := hstep.booked (booked_run w [])
  obtain ⟨-, -, hflight, -⟩ := hstep.of_started
  have hopen : ∀ m' ∈ start.1.moments (later.take 4), ¬ m'.Returns f.permit.number := by
    intro m' hm' hreturns
    obtain ⟨⟨b, d, hact⟩, -⟩ := hreturns
    simp only [later, List.take, moments, moment, List.mem_cons, List.not_mem_nil, or_false] at hm'
    obtain rfl | rfl | rfl | rfl := hm' <;> cases hact
  obtain ⟨hbooked', hflight', -⟩ := run_under_way (later.take 4) hbooked hflight hopen
  have hsilent : (start.1.run (later.take 4)).gate.isCancelled f.permit = false := by decide +kernel
  have hasks : m.Asks f.permit.number source (f.request (some (.str "key"))) :=
    asks_moment (hbooked'.flight?_eq hflight') hsilent rfl 9
  obtain ⟨n, u, c', told, since, hn, -, hc, -, hname, hconfig, -⟩ :=
    request_tells_the_start w h [] later "" "n" start.1 f hstart m hm source _ hasks
  have hnamed : ((ofWorkflow w).node "n").map Node.name = .ok "N" := by decide +kernel
  have hresolved : ((ofWorkflow w).resolve "" "n").map ResolvedConfig.config =
      .ok (.httpRequest { c with url := "https://host/x" }) := by decide +kernel
  rw [show (ofWorkflow w).node "n" = .ok n from hn] at hnamed
  rw [show (ofWorkflow w).resolve "" "n" = .ok c' from hc] at hresolved
  have hrenamed : (m.before.node "n").map Node.name = .ok "M" := by decide +kernel
  refine ⟨h, f, m, f.request (some (.str "key")), hstart, hm, hasks, hrenamed, ?_, ?_, rfl⟩
  · exact hname.trans (Except.ok.inj hnamed)
  · exact hconfig.trans (Except.ok.inj hresolved)

end Session

end FlowBench
