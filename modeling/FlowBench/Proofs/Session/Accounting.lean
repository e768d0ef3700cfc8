/-
  FlowBench.Proofs.Session.Accounting
  ───────────────────────────────────
  **Every test that starts ends once.**

  Tests of one node may overlap, an older one that was cancelled with a newer
  one, so that the record does not bracket them.  What holds is a balance: per
  node as many tests started as ended or are under way (`Balanced`).  The
  tests under way are those that started and did not return
  (`mem_flights_run_iff`), and of a node one at most was not cancelled.  A
  call that does not start a test returns at once and reaches no executor.
-/
import Mathlib.Data.List.Induction
import FlowBench.Executor
import FlowBench.Proofs.Bench.Turns
import FlowBench.Proofs.Session.Soundness

namespace FlowBench

/-! ## §1. What is counted. -/

namespace EventKind

/-- A test of a node started. -/
def starts (node : String) : EventKind → Bool
  | .testStarted n _ => n = node
  | _ => false

/-- A test of a node came to a value, failed or was cancelled. -/
def ends (node : String) : EventKind → Bool
  | .testCompleted n _ _ => n = node
  | .testFailed n _ _ => n = node
  | .testCancelled n => n = node
  | _ => false

end EventKind

open EventKind

namespace Session

variable {w : Workflow} {s s' : Session} {a : Act} {answer : Answer} {f : Flight}

/-- How many tests of a node are under way. -/
def underWay (s : Session) (node : String) : Nat := s.flights.countP fun f => f.permit.node = node

/-- Per node as many tests started as ended or are under way. -/
def Balanced (s : Session) : Prop :=
  ∀ node, s.record.countP (starts node) = s.record.countP (ends node) + s.underWay node

theorem countP_starts_startEvents (node id : String) (u : Context) (r : ResolvedConfig) :
    (startEvents id u r).countP (starts node) = if id = node then 1 else 0 := by
  have hnone : (r.fields.map fun f => templateResolved id f.field f.template f.result).countP
      (starts node) = 0 := by
    rw [List.countP_eq_zero]
    intro k hk
    obtain ⟨f, -, rfl⟩ := List.mem_map.1 hk
    simp [starts]
  unfold startEvents
  rw [List.countP_cons, hnone, Nat.zero_add]
  simp [starts]

theorem countP_ends_startEvents (node id : String) (u : Context) (r : ResolvedConfig) :
    (startEvents id u r).countP (ends node) = 0 := by
  rw [List.countP_eq_zero]
  intro k hk
  unfold startEvents at hk
  rcases List.mem_cons.1 hk with rfl | hk
  · simp [ends]
  · obtain ⟨f, -, rfl⟩ := List.mem_map.1 hk
    simp [ends]

/-- A result that counts ends a test. -/
theorem ends_resultEvent (node id : String) (r : Except Error Value) (d : Nat) :
    ends node (resultEvent id r d) = decide (id = node) := by cases r <;> rfl

theorem starts_resultEvent (node id : String) (r : Except Error Value) (d : Nat) :
    starts node (resultEvent id r d) = false := by cases r <;> rfl

/-- Of the tests that are counted, the one that ends is counted once. -/
theorem countP_of_mem (q : Flight → Bool) : ∀ {fs : List Flight},
    (fs.map fun g => g.permit.number).Nodup → f ∈ fs →
      fs.countP q = (fs.filter fun g => g.permit.number ≠ f.permit.number).countP q +
        if q f then 1 else 0
  | [], _, hf => by cases hf
  | g :: rest, hdistinct, hf => by
    rw [List.map_cons, List.nodup_cons] at hdistinct
    obtain ⟨hnew, hrest⟩ := hdistinct
    rw [List.countP_cons]
    by_cases hnumber : g.permit.number = f.permit.number
    · -- it is the first, and the rest have other numbers
      have hgf : f = g := by
        rcases List.mem_cons.1 hf with heq | hmem
        · exact heq
        · exact absurd (List.mem_map.2 ⟨f, hmem, hnumber.symm⟩) hnew
      have hkept : (rest.filter fun x => x.permit.number ≠ f.permit.number) = rest := by
        rw [List.filter_eq_self]
        intro x hx
        rw [decide_eq_true_eq]
        intro heq
        exact hnew (List.mem_map.2 ⟨x, hx, heq.trans hnumber.symm⟩)
      rw [List.filter_cons_of_neg (by simpa using hnumber), hkept, hgf]
    · have hmem : f ∈ rest := by
        rcases List.mem_cons.1 hf with heq | hmem
        · exact absurd (by rw [heq]) hnumber
        · exact hmem
      rw [List.filter_cons_of_pos (by simpa using hnumber), List.countP_cons,
        countP_of_mem q hrest hmem]
      omega

/-! ## §2. The balance. -/

/-- Events that neither start nor end a test may be added. -/
theorem Balanced.idle (h : s.Balanced) (hflights : s'.flights = s.flights) {k : EventKind}
    (hrecord : s'.record = s.record ++ [k]) (hstarts : ∀ node, starts node k = false)
    (hends : ∀ node, ends node k = false) : s'.Balanced := by
  intro node
  have hold := h node
  unfold underWay at hold ⊢
  rw [hrecord, hflights, List.countP_append, List.countP_append, List.countP_singleton,
    List.countP_singleton, hstarts, hends]
  simpa using hold

/-- A test ends: one event more, and one test less under way. -/
theorem Balanced.finish (h : s.Balanced) (hb : s.Booked) (hf : f ∈ s.flights)
    (hflights : s'.flights = s.flights.filter fun g => g.permit.number ≠ f.permit.number)
    {k : EventKind} (hrecord : s'.record = s.record ++ [k])
    (hstarts : ∀ node, starts node k = false)
    (hends : ∀ node, ends node k = decide (f.permit.node = node)) : s'.Balanced := by
  intro node
  have hold := h node
  have hless := countP_of_mem (fun g => decide (g.permit.node = node)) hb.distinct hf
  unfold underWay at hold ⊢
  rw [hrecord, hflights, List.countP_append, List.countP_append, List.countP_singleton,
    List.countP_singleton, hstarts, hends]
  simp only [Bool.false_eq_true, if_false]
  omega

theorem Step.balanced (hs : Step s a s' answer) (hb : s.Booked) (h : s.Balanced) :
    s'.Balanced := by
  cases hs with
  | stray | waiting | asking | idle | notAdded | notRenamed | notRemoved | notConnected => exact h
  | unknown => exact h
  | cancelled => exact h
  | rejected => exact h.idle rfl (record_emit _ _) (fun _ => rfl) (fun _ => rfl)
  | @started clock id n hrun hn =>
    intro node
    have hold := h node
    unfold underWay at hold ⊢
    rw [record_launch, flights_launch, List.countP_append, List.countP_append, List.countP_append,
      countP_starts_startEvents, countP_ends_startEvents, List.countP_singleton, permit_prepare]
    by_cases hid : id = node
    · rw [if_pos hid, if_pos (decide_eq_true hid)]
      omega
    · rw [if_neg hid, if_neg (by simpa using hid)]
      omega
  | abandoned hf =>
    exact h.finish hb (flight?_eq_some hf).1 (flights_abandon _ _) (record_abandon _ _)
      (fun _ => rfl) fun _ => rfl
  | settled hf =>
    refine h.finish hb (flight?_eq_some hf).1 ?_ (record_commit _ _ _ _) (fun _ => ?_) fun _ => ?_
    · rw [flights_land, flights_commit]
    · exact starts_resultEvent _ _ _ _
    · exact ends_resultEvent _ _ _ _
  | added => exact h.idle rfl (record_emit _ _) (fun _ => rfl) (fun _ => rfl)
  | renamed => exact h.idle rfl (record_emit _ _) (fun _ => rfl) (fun _ => rfl)
  | removed => exact h.idle rfl (record_emit _ _) (fun _ => rfl) (fun _ => rfl)
  | connected =>
    split
    · exact h.idle rfl (record_emit _ _) (fun _ => rfl) (fun _ => rfl)
    · exact h

theorem balanced_run (w : Workflow) (acts : List Act) : ((ofWorkflow w).run acts).Balanced := by
  refine (run_keeps (P := fun s => s.Booked ∧ s.Balanced) ?_ acts ⟨booked_run w [], ?_⟩).2
  · intro s a s' answer hs h
    exact ⟨hs.booked h.1, hs.balanced h.1 h.2⟩
  · intro node
    rfl

/-! ## §3. The tests under way. -/

/-- A test that starts gets the next number. -/
theorem Step.number_of_started (hs : Step s a s' (.tested (.ok f))) :
    f.permit.number = s.gate.next := by
  cases hs with
  | started => rfl

/-- After an act those tests are under way that were so and did not return,
and the one that started. -/
theorem Step.mem_flights_iff (hs : Step s a s' answer) :
    f ∈ s'.flights ↔
      (f ∈ s.flights ∧ ¬ (Moment.mk s a s' answer).Returns f.permit.number) ∨
        answer = .tested (.ok f) := by
  constructor
  · intro hf
    -- what ends another test does not end this one
    have other : ∀ {g : Flight} {number : Nat} {b : Arrival} {d : Nat},
        s.flight? number = some g → a = .resume number b d →
        f ∈ s.flights.filter (fun x => x.permit.number ≠ g.permit.number) →
        f ∈ s.flights ∧ ¬ (Moment.mk s a s' answer).Returns f.permit.number := by
      intro g number b d hg hact hf
      obtain ⟨hf, hne⟩ := List.mem_filter.1 hf
      rw [decide_eq_true_eq, (flight?_eq_some hg).2] at hne
      refine ⟨hf, ?_⟩
      rintro ⟨⟨b', d', hact'⟩, -⟩
      rw [hact] at hact'
      injection hact' with hnumber
      exact hne hnumber.symm
    cases hs with
    | rejected | unknown | stray | waiting | asking | idle | cancelled | notAdded | notRenamed
      | notRemoved | notConnected | added | renamed | removed =>
      refine .inl ⟨hf, ?_⟩
      rintro ⟨-, r, hans⟩
      cases hans
    | connected =>
      refine .inl ⟨by split at hf <;> exact hf, ?_⟩
      rintro ⟨-, r, hans⟩
      cases hans
    | started =>
      rcases List.mem_append.1 hf with hf | hf
      · refine .inl ⟨hf, ?_⟩
        rintro ⟨-, r, hans⟩
        cases hans
      · rw [List.mem_singleton.1 hf]
        exact .inr rfl
    | abandoned hg => exact .inl (other hg rfl hf)
    | settled hg =>
      rw [flights_land, flights_commit] at hf
      exact .inl (other hg rfl hf)
  · rintro (⟨hf, hopen⟩ | rfl)
    · exact hs.mem_flights hf hopen
    · -- only a test that starts gives a flight back
      cases hs with
      | started => exact List.mem_append_right _ List.mem_cons_self

/-- A test that returned in a run is gone after it. -/
theorem gone_of_returned {number : Nat} {m : Moment} : ∀ (acts : List Act) {s : Session},
    s.Booked → m ∈ s.moments acts → m.Returns number → (s.run acts).Gone number
  | [], _, _, hm, _ => by cases hm
  | a :: rest, s, hb, hm, hr => by
    have hs := step_perform s a
    rcases List.mem_cons.1 hm with rfl | hm
    · exact run_keeps Step.gone rest (hs.gone_of_returns hb hr)
    · exact gone_of_returned rest (hs.booked hb) hm hr

/-- **The tests under way are those that started and did not return.** -/
theorem mem_flights_run_iff (w : Workflow) (acts : List Act) (f : Flight) :
    f ∈ ((ofWorkflow w).run acts).flights ↔
      (∃ m ∈ (ofWorkflow w).moments acts, m.answer = .tested (.ok f)) ∧
        ∀ m ∈ (ofWorkflow w).moments acts, ¬ m.Returns f.permit.number := by
  induction acts using List.reverseRecOn with
  | nil => simp [run, moments, ofWorkflow]
  | append_singleton acts a ih =>
    have hs := step_perform ((ofWorkflow w).run acts) a
    have hmoments : (ofWorkflow w).moments (acts ++ [a]) =
        (ofWorkflow w).moments acts ++ [((ofWorkflow w).run acts).moment a] :=
      moments_append _ _ _
    rw [run_append, hmoments]
    change f ∈ (((ofWorkflow w).run acts).perform a).1.flights ↔ _
    rw [hs.mem_flights_iff, ih]
    simp only [List.mem_append, List.mem_singleton]
    constructor
    · rintro (⟨⟨⟨m, hm, hans⟩, hopen⟩, hlast⟩ | hans)
      · refine ⟨⟨m, .inl hm, hans⟩, ?_⟩
        rintro m' (hm' | rfl)
        · exact hopen m' hm'
        · exact hlast
      · refine ⟨⟨_, .inr rfl, hans⟩, ?_⟩
        rintro m' (hm' | rfl) hr
        · -- what returned before has a smaller number
          have hgone := gone_of_returned acts (booked_run w []) hm' hr
          rw [hans] at hs
          exact absurd hs.number_of_started (Nat.ne_of_lt hgone.1)
        · obtain ⟨-, r, hreturned⟩ := hr
          rw [show (((ofWorkflow w).run acts).moment a).answer = _ from hans] at hreturned
          cases hreturned
    · rintro ⟨⟨m, hm | rfl, hans⟩, hopen⟩
      · exact .inl ⟨⟨⟨m, hm, hans⟩, fun m' hm' => hopen m' (.inl hm')⟩, hopen _ (.inr rfl)⟩
      · exact .inr hans

/-- Of the tests of a node that are under way one at most was not
cancelled. -/
theorem Booked.countP_silent_le_one (h : s.Booked) (node : String) :
    s.flights.countP (fun f => f.permit.node = node && !s.gate.isCancelled f.permit) ≤ 1 := by
  have hdistinct := h.distinct.sublist
    ((List.filter_sublist (p := fun f : Flight =>
      f.permit.node = node && !s.gate.isCancelled f.permit)).map _)
  have hsilent : ∀ f ∈ s.flights.filter (fun f : Flight =>
      f.permit.node = node && !s.gate.isCancelled f.permit),
      s.gate.running.get? node = some f.permit.number := by
    intro f hf
    obtain ⟨hmem, hf⟩ := List.mem_filter.1 hf
    rw [Bool.and_eq_true, Bool.not_eq_true', decide_eq_true_eq,
      Gate.isCancelled_eq_false_iff] at hf
    rw [← hf.1]
    exact h.silent f hmem hf.2
  rw [List.countP_eq_length_filter]
  rcases hfiltered : s.flights.filter _ with _ | ⟨f, _ | ⟨g, rest⟩⟩
  · simp
  · simp
  · -- both would hold the entry of the node
    rw [hfiltered] at hdistinct hsilent
    have hf := hsilent f (by simp)
    rw [hsilent g (by simp), Option.some.injEq] at hf
    simp [hf] at hdistinct

/-- A node is running exactly when a test of it is under way that was not
cancelled. -/
theorem Booked.isRunning_iff (h : s.Booked) (node : String) :
    s.gate.isRunning node = true ↔
      ∃ f ∈ s.flights, f.permit.node = node ∧ s.gate.isCancelled f.permit = false := by
  rw [(Ledger.iff_tally.1 h).isRunning_iff]
  simp only [List.mem_map, Gate.isCancelled_eq_false_iff, exists_exists_and_eq_and]

/-! ## §4. Calls that start no test. -/

/-- A test that is asked for returns a failure at once, and reaches no
executor, whichever runs the tests. -/
structure ReturnsAtOnce (s : Session) (clock node : String) (s' : Session) (e : Error) :
    Prop where
  act : s.perform (.test clock node) = (s', .tested (.error e))
  plan : ∀ x : Executor, s.test clock x node = .done (s', .error e)
  bench : ∀ (b : Bench) (number : Nat), b.session = s →
    b.begin clock number node = { b with session := s' }.setStage number (.over (.error e))

theorem ReturnsAtOnce.of_start {clock node : String} {e : Error}
    (h : s.start clock node = (s', .error e)) : s.ReturnsAtOnce clock node s' e where
  act := by simp only [perform, h]
  plan x := by simp only [test, h]
  bench b number hb := by simp only [Bench.begin, hb, h]

/-- A test of a running node is rejected. -/
theorem start_of_running {clock node : String} (h : s.gate.isRunning node = true) :
    s.start clock node = ((s.warn (.rejected node)).emit (.testRejected node),
      .error (.testInProgress node)) := by
  simp only [start, Gate.acquire, h, if_true]

/-- A test of no node gives its permit back. -/
theorem start_of_unknown {clock node : String} (h : s.gate.running.get? node = none)
    (hn : s.graph.node? node = none) :
    s.start clock node = ({ s with gate := { s.gate with next := s.gate.next + 1 } },
      .error (.nodeNotFound node)) := by
  have hrun := (Gate.isRunning_eq_false_iff _ _).2 h
  simp only [start, Gate.acquire, hrun, hn, Bool.false_eq_true, if_false, Gate.release_enter h]

/-! ## §5. The account. -/

/-- The test that returns in a moment is told of once as ended, leaves no
entry, and can never be woken again. -/
structure ReturnsOnce (m : Moment) (f : Flight) : Prop where
  told : ∃ k, ends f.permit.node k = true ∧ m.after.record = m.before.record ++ [k]
  freed : m.after.gate.running.get? f.permit.node ≠ some f.permit.number
  stray : ∀ later, ∀ m' ∈ m.after.moments later, m'.Wakes f.permit.number →
    m'.answer = .stray ∧ m'.after = m'.before

/-- A test under way that returns does so once. -/
theorem Step.returnsOnce {number d : Nat} {b : Arrival}
    (hs : Step s (.resume number b d) s' answer) (h : s.Booked)
    (hr : (Moment.mk s (.resume number b d) s' answer).Returns number) :
    ∃ f ∈ s.flights, f.permit.number = number ∧
      ReturnsOnce ⟨s, .resume number b d, s', answer⟩ f := by
  have hgone := hs.gone_of_returns h hr
  -- an entry with the number would be that of a test under way
  have hfreed : ∀ node, s'.gate.running.get? node ≠ some number := by
    intro node hrun
    obtain ⟨-, g, hg, hperm⟩ := (hs.booked h).held node number hrun
    exact hgone.2 g hg (by rw [hperm])
  have hover : ∀ later, ∀ m' ∈ s'.moments later, m'.Wakes number →
      m'.answer = .stray ∧ m'.after = m'.before := fun later => run_gone later hgone
  obtain ⟨-, r, hans⟩ := hr
  cases hs with
  | stray | waiting | asking => cases hans
  | abandoned hf =>
    obtain ⟨hmem, rfl⟩ := flight?_eq_some hf
    exact ⟨_, hmem, rfl, ⟨.testCancelled _, decide_eq_true rfl, record_abandon _ _⟩, hfreed _,
      hover⟩
  | settled hf =>
    obtain ⟨hmem, rfl⟩ := flight?_eq_some hf
    refine ⟨_, hmem, rfl, ⟨_, ?_, record_commit _ _ _ _⟩, hfreed _, hover⟩
    rw [ends_resultEvent]
    exact decide_eq_true rfl

/-- **Every test is accounted for.**  In every state that a session comes to:

* the tests under way are those that started and did not return, and per node
  as many tests started as came to a value, failed, were cancelled or are
  under way;
* of the tests of a node that are under way one at most was not cancelled, and
  the node is running exactly when there is one;
* a test of a running node is rejected at once: that is recorded and warned
  of, and nothing else changes;
* a test of an unknown node fails at once, and only a number is used up;
* a test that is woken and returns is told of once as ended, leaves no entry,
  and can never be woken again; if it does not return nothing changes. -/
theorem every_test_is_accounted_for (w : Workflow) (h : w.validate = .ok ()) (acts : List Act) :
    let s := (ofWorkflow w).run acts
    (∀ f, f ∈ s.flights ↔
      (∃ m ∈ (ofWorkflow w).moments acts, m.answer = .tested (.ok f)) ∧
        ∀ m ∈ (ofWorkflow w).moments acts, ¬ m.Returns f.permit.number) ∧
    (∀ node, s.record.countP (starts node) =
      s.record.countP (ends node) + s.flights.countP fun f => f.permit.node = node) ∧
    (∀ node, s.flights.countP
      (fun f => f.permit.node = node && !s.gate.isCancelled f.permit) ≤ 1) ∧
    (∀ node, s.gate.isRunning node = true ↔
      ∃ f ∈ s.flights, f.permit.node = node ∧ s.gate.isCancelled f.permit = false) ∧
    (∀ clock node, s.gate.isRunning node = true →
      s.ReturnsAtOnce clock node
        { s with
          log := s.log.emit (.testRejected node)
          warnings := s.warnings ++ [.rejected node] }
        (.testInProgress node)) ∧
    (∀ clock node, s.workflow.node? node = none →
      s.ReturnsAtOnce clock node { s with gate := { s.gate with next := s.gate.next + 1 } }
        (.nodeNotFound node)) ∧
    (∀ number b d,
      let m := s.moment (.resume number b d)
      (m.Returns number → ∃ f ∈ s.flights, f.permit.number = number ∧ ReturnsOnce m f) ∧
        (¬ m.Returns number → m.after = s)) := by
  intro s
  have hbooked : s.Booked := booked_run w acts
  have hsound : s.Sound := sound_run ((Workflow.validate_eq_ok_iff w).1 h) acts
  refine ⟨mem_flights_run_iff w acts, balanced_run w acts, hbooked.countP_silent_le_one,
    hbooked.isRunning_iff, ?_, ?_, ?_⟩
  · intro clock node hrun
    exact .of_start (start_of_running hrun)
  · intro clock node hnone
    have hunknown : s.graph.node? node = none := by
      rw [hsound.indexed, FlowGraph.node?_ofWorkflow hsound.valid.ids]
      exact hnone
    have hfree : s.gate.running.get? node = none := by
      rw [Option.eq_none_iff_forall_ne_some]
      intro number hrun
      -- what is running exists
      have hhas := Workflow.isSome_node?_iff.2 (hsound.running node number hrun)
      rw [hnone] at hhas
      cases hhas
    exact .of_start (start_of_unknown hfree hunknown)
  · intro number b d m
    have hs := step_perform s (.resume number b d)
    exact ⟨hs.returnsOnce hbooked, hs.of_wake ⟨b, d, rfl⟩⟩

/-- A test is cancelled and a newer one of the node starts before the older
one is woken: both are under way, and the node is running. -/
theorem overlapping_tests_are_accounted_for :
    let w : Workflow := { nodes := [⟨"n", "N", .manual⟩] }
    let s := (ofWorkflow w).run [.test "" "n", .cancel "n", .test "" "n"]
    w.validate = .ok () ∧
      s.record.countP (starts "n") = s.record.countP (ends "n") + 2 ∧
      s.gate.isRunning "n" = true ∧
      (∃ s', s.ReturnsAtOnce "" "n" s' (.testInProgress "n")) ∧
      ∃ s', s.ReturnsAtOnce "" "x" s' (.nodeNotFound "x") := by
  intro w s
  have h : w.validate = .ok () := by decide
  obtain ⟨-, hbalance, -, -, hrejected, hunknown, -⟩ :=
    every_test_is_accounted_for w h [.test "" "n", .cancel "n", .test "" "n"]
  have hrun : s.gate.isRunning "n" = true := by decide +kernel
  have hcount : (s.flights.countP fun f => f.permit.node = "n") = 2 := by decide +kernel
  refine ⟨h, ?_, hrun, ⟨_, hrejected "" "n" hrun⟩, _, hunknown "" "x" (by decide +kernel)⟩
  rw [hbalance "n", hcount]

end Session

end FlowBench
