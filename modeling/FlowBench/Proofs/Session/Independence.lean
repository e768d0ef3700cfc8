/-
  FlowBench.Proofs.Session.Independence
  ─────────────────────────────────────
  **Tests of different nodes do not meet.**

  Of a session each node has its own part: its state in the store, its entry
  in the gate, its tests under way and their signals, and the events about
  it.  Two sessions are `Alike` at a node when these parts agree.

    • What is done to a test leaves the parts of other nodes alone
      (`Alike.of_perform`).
    • What it does to the part of its own node, and what it gives back, hangs
      on that part alone (`Alike.perform`).

  So two tests of different nodes may come to their ends in either order.
  Only the record as a whole tells the orders apart, by how it mixes the
  events of the two nodes.  The times that are measured may differ between
  the orders; they are compared under a reading `τ`, which may drop them.
-/
import FlowBench.Proofs.Branch
import FlowBench.Proofs.Graph.Collect
import FlowBench.Proofs.Session.Cancellation

namespace FlowBench

/-! ## §1. Times. -/

/-- A node's state with its times read by `τ`. -/
def NodeState.retime (τ : Nat → Nat) (st : NodeState) : NodeState :=
  { st with
    error := st.error.map fun e => { e with duration := τ e.duration }
    duration := st.duration.map τ }

/-- An event with its time read by `τ`. -/
def EventKind.retime (τ : Nat → Nat) : EventKind → EventKind
  | .testCompleted node output d => .testCompleted node output (τ d)
  | .testFailed node error d => .testFailed node error (τ d)
  | k => k

theorem NodeState.retime_id (st : NodeState) : st.retime id = st := by
  obtain ⟨output, error, duration⟩ := st
  simp [retime]

theorem EventKind.retime_id (k : EventKind) : k.retime id = k := by
  cases k <;> rfl

theorem EventKind.retime_resultEvent {τ : Nat → Nat} {d d' : Nat} (hd : τ d = τ d') (id : String)
    (r : Except Error Value) :
    (Session.resultEvent id r d).retime τ = (Session.resultEvent id r d').retime τ := by
  cases r <;> simp [Session.resultEvent, retime, hd]

/-- The time that a failure took is all that its state takes from the clock. -/
theorem NodeState.retime_fail (τ : Nat → Nat) (st : Option NodeState) (message : String) (d : Nat) :
    ({ st.getD {} with error := some ⟨message, d⟩ } : NodeState).retime τ =
      { (st.map (retime τ)).getD {} with error := some ⟨message, τ d⟩ } := by
  cases st <;> rfl

/-- Neither an output nor whether it is live hangs on the times. -/
theorem Node.branch_retime (n : Node) (τ : Nat → Nat) (st : Option NodeState) :
    n.branch (st.map (NodeState.retime τ)) = n.branch st := by
  cases st with
  | none => rfl
  | some st =>
    obtain ⟨output, error, duration⟩ := st
    cases error <;> rfl

/-- The act is done to a test: it cancels the node or wakes the test. -/
def Act.On (f : Flight) : Act → Prop
  | .cancel id => id = f.permit.node
  | .resume number _ _ => number = f.permit.number
  | _ => False

namespace Session

variable {s t u : Session} {f : Flight} {a : Act} {τ : Nat → Nat} {k : String}

/-! ## §2. The part of a node. -/

/-- The events about a node, in order. -/
def recordOf (s : Session) (node : String) : List EventKind :=
  s.record.filter fun k => k.node? = some node

/-- Two sessions agree on the part of a node, but for times that `τ` does not
tell apart. -/
structure Alike (τ : Nat → Nat) (k : String) (s t : Session) : Prop where
  state : (s.store.get? k).map (NodeState.retime τ) = (t.store.get? k).map (NodeState.retime τ)
  running : s.gate.running.get? k = t.gate.running.get? k
  flights : ∀ f, f.permit.node = k → (f ∈ s.flights ↔ f ∈ t.flights)
  fired : ∀ f ∈ s.flights, f.permit.node = k →
    (f.permit.number ∈ s.gate.fired ↔ f.permit.number ∈ t.gate.fired)
  events : (s.recordOf k).map (EventKind.retime τ) = (t.recordOf k).map (EventKind.retime τ)

namespace Alike

theorem refl (τ : Nat → Nat) (k : String) (s : Session) : Alike τ k s s :=
  ⟨rfl, rfl, fun _ _ => .rfl, fun _ _ _ => .rfl, rfl⟩

theorem symm (h : Alike τ k s t) : Alike τ k t s :=
  ⟨h.state.symm, h.running.symm, fun f hf => (h.flights f hf).symm,
    fun f hf hk => (h.fired f ((h.flights f hk).2 hf) hk).symm, h.events.symm⟩

theorem trans (h : Alike τ k s t) (h' : Alike τ k t u) : Alike τ k s u :=
  ⟨h.state.trans h'.state, h.running.trans h'.running,
    fun f hf => (h.flights f hf).trans (h'.flights f hf),
    fun f hf hk => (h.fired f hf hk).trans (h'.fired f ((h.flights f hk).1 hf) hk),
    h.events.trans h'.events⟩

end Alike

theorem recordOf_concat {x : EventKind} (h : t.record = s.record ++ [x]) :
    t.recordOf k = s.recordOf k ++ if x.node? = some k then [x] else [] := by
  unfold recordOf
  rw [h, List.filter_append]
  by_cases hx : x.node? = some k <;> simp [hx]

/-! ## §3. What a test leaves alone. -/

/-- An event about another node. -/
theorem Alike.of_emit {x : EventKind} (hx : x.node? ≠ some k) : Alike τ k s (s.emit x) where
  state := rfl
  running := rfl
  flights _ _ := .rfl
  fired _ _ _ := .rfl
  events := by rw [recordOf_concat (record_emit s x), if_neg hx, List.append_nil]

/-- A test of another node ends. -/
theorem Alike.of_land (hs : s.Booked) (hf : f ∈ s.flights) (hk : f.permit.node ≠ k) :
    Alike τ k s (s.land f) where
  state := rfl
  running := by
    rw [gate_land, Gate.get?_running_release, if_neg fun h => hk h.1.symm]
  flights x hx := by
    rw [flights_land, List.mem_filter, decide_eq_true_eq]
    refine ⟨fun hmem => ⟨hmem, fun hnum => ?_⟩, fun hmem => hmem.1⟩
    -- a test of this node has another number
    rw [hs.unique hmem hf hnum] at hx
    exact hk hx
  fired x _ _ := by rw [gate_land, Gate.fired_release]
  events := rfl

theorem Alike.of_commit (hk : f.permit.node ≠ k) (r : Except Error Value) (d : Nat) :
    Alike τ k s (s.commit f r d) where
  state := by rw [(recorded_commit s f r d).2 k hk.symm]
  running := by rw [gate_commit]
  flights x _ := by rw [flights_commit]
  fired x _ _ := by rw [gate_commit]
  events := by
    have hother : (resultEvent f.permit.node r d).node? ≠ some k := by
      cases r <;> simpa [resultEvent, EventKind.node?] using hk
    rw [recordOf_concat (record_commit s f r d), if_neg hother, List.append_nil]

/-! ## §4. Acts on a test. -/

/-- No other node has a test under way with the number of this one. -/
def Knows (s : Session) (f : Flight) : Prop :=
  ∀ x ∈ s.flights, x.permit.number = f.permit.number → x.permit.node = f.permit.node

theorem Knows.mono (h : s.Knows f) (hsub : t.flights ⊆ s.flights) : t.Knows f :=
  fun x hx => h x (hsub hx)

theorem Booked.knows (h : s.Booked) (hf : f ∈ s.flights) : s.Knows f := by
  intro x hx hnum
  rw [h.unique hx hf hnum]

theorem Booked.flight?_eq_some_iff (h : s.Booked) {number : Nat} :
    s.flight? number = some f ↔ f ∈ s.flights ∧ f.permit.number = number := by
  constructor
  · exact flight?_eq_some
  · rintro ⟨hf, rfl⟩
    exact h.flight?_eq hf

variable {s' : Session} {answer : Answer}

/-- What is done to a test starts none. -/
theorem Step.flights_subset (h : Step s a s' answer) (ha : a.On f) : s'.flights ⊆ s.flights := by
  cases h with
  | rejected | unknown | started | added | renamed | removed | connected | notAdded | notRenamed
    | notRemoved | notConnected => exact ha.elim
  | stray | waiting | asking | idle | cancelled => exact List.Subset.refl _
  | abandoned => exact List.filter_subset_self _
  | settled =>
    rw [flights_land, flights_commit]
    exact List.filter_subset_self _

theorem Step.graph_eq (h : Step s a s' answer) (ha : a.On f) : s'.graph = s.graph := by
  cases h with
  | rejected | unknown | started | added | renamed | removed | connected | notAdded | notRenamed
    | notRemoved | notConnected => exact ha.elim
  | stray | waiting | asking | idle | cancelled | abandoned => rfl
  | settled => rw [graph_land, graph_commit]

/-- **What is done to a test leaves the parts of other nodes alone.** -/
theorem Step.alike (h : Step s a s' answer) (hs : s.Booked) (hf : s.Knows f) (ha : a.On f)
    (hk : f.permit.node ≠ k) : Alike τ k s s' := by
  cases h with
  | rejected | unknown | started | added | renamed | removed | connected | notAdded | notRenamed
    | notRemoved | notConnected => exact ha.elim
  | stray | waiting | asking | idle => exact .refl τ k s
  | @cancelled id number hrun =>
    obtain rfl : id = f.permit.node := ha
    refine ⟨rfl, ?_, fun _ _ => .rfl, fun x hx hxk => ?_, rfl⟩
    · show _ = (s.gate.cancel f.permit.node).1.running.get? k
      rw [Gate.get?_running_cancel, if_neg hk.symm]
    · show _ ↔ x.permit.number ∈ (s.gate.cancel f.permit.node).1.fired
      rw [hs.mem_fired_cancel hx]
      exact (or_iff_left fun hboth => hk (hboth.2.trans hxk)).symm
  | @abandoned number d b x hx hm =>
    obtain ⟨hmem, hnum⟩ := flight?_eq_some hx
    have hnode : x.permit.node ≠ k := by rwa [hf x hmem (hnum.trans ha)]
    refine (Alike.of_emit (x := .testCancelled x.permit.node) ?_).trans
      (Alike.of_land (s := s.emit _) hs hmem hnode)
    simpa [EventKind.node?] using hnode
  | @settled number d b x r hx hm hr =>
    obtain ⟨hmem, hnum⟩ := flight?_eq_some hx
    have hnode : x.permit.node ≠ k := by rwa [hf x hmem (hnum.trans ha)]
    have hbooked : (s.commit x r d).Booked := by
      unfold Booked
      rw [gate_commit, flights_commit]
      exact hs
    have hmem' : x ∈ (s.commit x r d).flights := by rwa [flights_commit]
    exact (Alike.of_commit hnode r d).trans (Alike.of_land hbooked hmem' hnode)

/-! ## §5. What it does to its own part. -/

/-- The same act on a test, at times that are read alike. -/
inductive Parallel (τ : Nat → Nat) (f : Flight) : Act → Act → Prop where
  | cancel : Parallel τ f (.cancel f.permit.node) (.cancel f.permit.node)
  | resume {b : Arrival} {d d' : Nat} (h : τ d = τ d') :
      Parallel τ f (.resume f.permit.number b d) (.resume f.permit.number b d')

theorem Parallel.symm {a b : Act} (h : Parallel τ f a b) : Parallel τ f b a := by
  cases h with
  | cancel => exact .cancel
  | resume h => exact .resume h.symm

theorem Parallel.on {a b : Act} (h : Parallel τ f a b) : a.On f := by
  cases h <;> rfl

namespace Alike

variable (h : Alike τ f.permit.node s t)

include h

theorem emit (x : EventKind) : Alike τ f.permit.node (s.emit x) (t.emit x) where
  state := h.state
  running := h.running
  flights := h.flights
  fired := h.fired
  events := by
    rw [recordOf_concat (record_emit s x), recordOf_concat (record_emit t x), List.map_append,
      List.map_append, h.events]

theorem land : Alike τ f.permit.node (s.land f) (t.land f) where
  state := h.state
  running := by
    rw [gate_land, gate_land, Gate.get?_running_release, Gate.get?_running_release, h.running]
  flights x hx := by
    rw [flights_land, flights_land, List.mem_filter, List.mem_filter, h.flights x hx]
  fired x hx hk := by
    rw [gate_land, gate_land, Gate.fired_release, Gate.fired_release]
    exact h.fired x (List.mem_filter.1 hx).1 hk
  events := h.events

theorem commit (r : Except Error Value) {d d' : Nat} (hd : τ d = τ d') :
    Alike τ f.permit.node (s.commit f r d) (t.commit f r d') where
  state := by
    cases r with
    | ok v =>
      show ((s.store.succeed f.permit.node v d).get? _).map _ =
        ((t.store.succeed f.permit.node v d').get? _).map _
      rw [Store.get?_succeed, Store.get?_succeed, if_pos rfl, if_pos rfl]
      simp [NodeState.retime, hd]
    | error e =>
      show ((s.store.fail f.permit.node e.userMessage d).get? _).map _ =
        ((t.store.fail f.permit.node e.userMessage d').get? _).map _
      rw [Store.get?_fail, Store.get?_fail, if_pos rfl, if_pos rfl, Option.map_some,
        Option.map_some, NodeState.retime_fail, NodeState.retime_fail, h.state, hd]
  running := by
    rw [gate_commit, gate_commit]
    exact h.running
  flights := by
    rw [flights_commit, flights_commit]
    exact h.flights
  fired := by
    rw [flights_commit, gate_commit, gate_commit]
    exact h.fired
  events := by
    have hevent := EventKind.retime_resultEvent hd f.permit.node r
    have hnode : ∀ d, (resultEvent f.permit.node r d).node? = some f.permit.node := by
      intro d
      cases r <;> rfl
    rw [recordOf_concat (record_commit s f r d), recordOf_concat (record_commit t f r d'),
      if_pos (hnode d), if_pos (hnode d'), List.map_append, List.map_append, h.events,
      List.map_singleton, List.map_singleton, hevent]

theorem isCancelled_eq (hf : f ∈ s.flights) :
    s.gate.isCancelled f.permit = t.gate.isCancelled f.permit := by
  rw [Bool.eq_iff_iff, Gate.isCancelled_iff, Gate.isCancelled_iff]
  exact h.fired f hf rfl

theorem mayCommit_eq (hf : f ∈ s.flights) :
    s.gate.mayCommit f.permit = t.gate.mayCommit f.permit := by
  rw [Bool.eq_iff_iff, Gate.mayCommit_iff, Gate.mayCommit_iff, h.running, h.fired f hf rfl]

theorem abandon : Alike τ f.permit.node (s.abandon f).1 (t.abandon f).1 := (h.emit _).land

theorem finish (hf : f ∈ s.flights) (r : Except Error Value) {d d' : Nat} (hd : τ d = τ d') :
    Alike τ f.permit.node (s.finish f r d).1 (t.finish f r d').1 ∧
      (s.finish f r d).2 = (t.finish f r d').2 := by
  unfold Session.finish
  rw [h.mayCommit_eq hf]
  split
  · exact ⟨(h.commit r hd).land, rfl⟩
  · exact ⟨h.abandon, rfl⟩

theorem resume (hf : f ∈ s.flights) (b : Arrival) {d d' : Nat} (hd : τ d = τ d') :
    Alike τ f.permit.node (s.resume f b d).1 (t.resume f b d').1 ∧
      (s.resume f b d).2 = (t.resume f b d').2 := by
  unfold Session.resume
  rw [h.isCancelled_eq hf]
  split
  · exact ⟨h.abandon, rfl⟩
  · cases b with
    | nothing => exact ⟨h, rfl⟩
    | result r =>
      obtain ⟨halike, hresult⟩ := h.finish hf r hd
      exact ⟨halike, congrArg Progress.returns hresult⟩
    | credentials source =>
      cases hcred : f.credentials source with
      | ok c => simpa [hcred] using h
      | error e =>
        obtain ⟨halike, hresult⟩ := h.finish hf (.error e) hd
        simpa [hcred] using ⟨halike, hresult⟩

theorem cancel (hs : s.Booked) (ht : t.Booked) :
    Alike τ f.permit.node (s.cancel f.permit.node).1 (t.cancel f.permit.node).1 ∧
      (s.cancel f.permit.node).2 = (t.cancel f.permit.node).2 := by
  refine ⟨⟨h.state, ?_, h.flights, fun x hx hk => ?_, h.events⟩, ?_⟩
  · show (s.gate.cancel f.permit.node).1.running.get? _ =
      (t.gate.cancel f.permit.node).1.running.get? _
    rw [Gate.get?_running_cancel, Gate.get?_running_cancel, h.running]
  · show x.permit.number ∈ (s.gate.cancel f.permit.node).1.fired ↔
      x.permit.number ∈ (t.gate.cancel f.permit.node).1.fired
    rw [hs.mem_fired_cancel hx, ht.mem_fired_cancel ((h.flights x hk).1 hx), h.fired x hx hk,
      h.running]
  · show (s.gate.cancel f.permit.node).2 = (t.gate.cancel f.permit.node).2
    rw [Gate.found_cancel, Gate.found_cancel]
    unfold Gate.isRunning
    rw [h.running]

/-- The test is found under way in both, or in neither. -/
theorem flight?_eq (hs : s.Booked) (ht : t.Booked) (hsf : s.Knows f) (htf : t.Knows f) :
    s.flight? f.permit.number = t.flight? f.permit.number := by
  ext x
  rw [hs.flight?_eq_some_iff, ht.flight?_eq_some_iff]
  constructor
  · rintro ⟨hx, hnum⟩
    exact ⟨(h.flights x (hsf x hx hnum)).1 hx, hnum⟩
  · rintro ⟨hx, hnum⟩
    exact ⟨(h.flights x (htf x hx hnum)).2 hx, hnum⟩

/-- **What is done to a test hangs on the part of its node alone**, both what
becomes of that part and what is given back. -/
theorem perform (hs : s.Booked) (ht : t.Booked) (hsf : s.Knows f) (htf : t.Knows f) {a b : Act}
    (hab : Parallel τ f a b) :
    Alike τ f.permit.node (s.perform a).1 (t.perform b).1 ∧ (s.perform a).2 = (t.perform b).2 := by
  cases hab with
  | cancel =>
    obtain ⟨halike, hfound⟩ := h.cancel hs ht
    exact ⟨halike, congrArg Answer.cancelled hfound⟩
  | @resume b d d' hd =>
    have hfind := h.flight?_eq hs ht hsf htf
    cases hx : s.flight? f.permit.number with
    | none =>
      simp only [Session.perform, ← hfind, hx]
      exact ⟨h, trivial⟩
    | some x =>
      obtain ⟨hmem, hnum⟩ := flight?_eq_some hx
      have hnode := hsf x hmem hnum
      obtain ⟨halike, hprogress⟩ := resume (f := x) (hnode ▸ h) hmem b hd
      simp only [Session.perform, ← hfind, hx]
      exact ⟨hnode ▸ halike, congrArg Answer.resumed hprogress⟩

end Alike

/-! ## §6. Along a run. -/

/-- What the acts of a run give back, in order. -/
def answers (s : Session) (acts : List Act) : List Answer := (s.moments acts).map Moment.answer

theorem run_flights_subset : ∀ (acts : List Act) {s : Session}, (∀ a ∈ acts, a.On f) →
    (s.run acts).flights ⊆ s.flights
  | [], _, _ => List.Subset.refl _
  | a :: rest, s, h => by
    have hfirst := (step_perform s a).flights_subset (h a List.mem_cons_self)
    have hon : ∀ x ∈ rest, x.On f := fun x hx => h x (List.mem_cons_of_mem a hx)
    exact List.Subset.trans (run_flights_subset rest hon) hfirst

theorem graph_run : ∀ (acts : List Act) {s : Session}, (∀ a ∈ acts, a.On f) →
    (s.run acts).graph = s.graph
  | [], _, _ => rfl
  | a :: rest, s, h =>
    (graph_run rest fun x hx => h x (List.mem_cons_of_mem a hx)).trans
      ((step_perform s a).graph_eq (h a List.mem_cons_self))

/-- Acts on a test leave the parts of other nodes alone. -/
theorem alike_run (hk : f.permit.node ≠ k) : ∀ (acts : List Act) {s : Session}, s.Booked →
    s.Knows f → (∀ a ∈ acts, a.On f) → Alike τ k s (s.run acts)
  | [], s, _, _, _ => .refl τ k s
  | a :: rest, s, hs, hf, h => by
    have hstep := step_perform s a
    have ha := h a List.mem_cons_self
    refine (hstep.alike hs hf ha hk).trans (alike_run hk rest (hstep.booked hs) ?_ ?_)
    · exact hf.mono (hstep.flights_subset ha)
    · exact fun x hx => h x (List.mem_cons_of_mem a hx)

/-- Acts on a test go alike where the part of its node is alike. -/
theorem Alike.run {as bs : List Act} (hab : List.Forall₂ (Parallel τ f) as bs) :
    ∀ {s t : Session}, s.Booked → t.Booked → s.Knows f → t.Knows f →
      Alike τ f.permit.node s t →
        Alike τ f.permit.node (s.run as) (t.run bs) ∧ s.answers as = t.answers bs := by
  induction hab with
  | nil => exact fun _ _ _ _ h => ⟨h, rfl⟩
  | @cons a b as bs hfirst _ ih =>
    intro s t hs ht hsf htf h
    have hsa := step_perform s a
    have htb := step_perform t b
    obtain ⟨halike, hanswer⟩ := h.perform hs ht hsf htf hfirst
    obtain ⟨hrest, hanswers⟩ := ih (hsa.booked hs) (htb.booked ht)
      (hsf.mono (hsa.flights_subset hfirst.on)) (htf.mono (htb.flights_subset hfirst.symm.on)) halike
    exact ⟨hrest, congrArg₂ List.cons hanswer hanswers⟩

theorem on_of_forall₂ {as bs : List Act} (hab : List.Forall₂ (Parallel τ f) as bs) :
    (∀ a ∈ as, a.On f) ∧ ∀ b ∈ bs, b.On f := by
  induction hab with
  | nil => simp
  | cons hfirst _ ih =>
    exact ⟨List.forall_mem_cons.2 ⟨hfirst.on, ih.1⟩, List.forall_mem_cons.2 ⟨hfirst.symm.on, ih.2⟩⟩

section

variable {g : Flight} {xs xs' ys ys' : List Act} (hs : s.Booked) (hf : f ∈ s.flights)
  (hg : g ∈ s.flights) (hne : f.permit.node ≠ g.permit.node)
  (hxs : List.Forall₂ (Parallel τ f) xs xs') (hys : List.Forall₂ (Parallel τ g) ys ys')

include hs hf hg hne hxs hys

/-- The part of the first test's node comes out alike, whether the acts on
the other test come after it or before. -/
theorem alike_own_of_orders :
    Alike τ f.permit.node ((s.run xs).run ys) ((s.run ys').run xs') ∧
      s.answers xs = (s.run ys').answers xs' := by
  have hx := on_of_forall₂ hxs
  have hy := on_of_forall₂ hys
  have hknows := hs.knows hf
  have hknows' := hknows.mono (run_flights_subset ys' hy.2)
  -- the other test's acts are not noticed, neither before nor after
  have hbefore : Alike τ f.permit.node s (s.run ys') :=
    alike_run hne.symm ys' hs (hs.knows hg) hy.2
  have hafter : Alike τ f.permit.node (s.run xs) ((s.run xs).run ys) :=
    alike_run hne.symm ys (run_keeps Step.booked xs hs)
      ((hs.knows hg).mono (run_flights_subset xs hx.1)) hy.1
  obtain ⟨halike, hanswers⟩ :=
    hbefore.run hxs hs (run_keeps Step.booked ys' hs) hknows hknows'
  exact ⟨hafter.symm.trans halike, hanswers⟩

/-- **Acts on tests of two nodes may be done in either order.** -/
theorem alike_of_orders (k : String) : Alike τ k ((s.run xs).run ys) ((s.run ys').run xs') := by
  have hflip : ∀ {f : Flight} {as bs : List Act}, List.Forall₂ (Parallel τ f) as bs →
      List.Forall₂ (Parallel τ f) bs as := fun h => h.flip.imp fun _ _ hab => hab.symm
  have hx := on_of_forall₂ hxs
  have hy := on_of_forall₂ hys
  by_cases hkf : f.permit.node = k
  · rw [← hkf]
    exact (alike_own_of_orders hs hf hg hne hxs hys).1
  · by_cases hkg : g.permit.node = k
    · rw [← hkg]
      exact (alike_own_of_orders hs hg hf hne.symm (hflip hys) (hflip hxs)).1.symm
    · -- neither test is of this node
      have hfirst := (alike_run (τ := τ) hkf xs hs (hs.knows hf) hx.1).trans
        (alike_run hkg ys (run_keeps Step.booked xs hs)
          ((hs.knows hg).mono (run_flights_subset xs hx.1)) hy.1)
      have hsecond := (alike_run (τ := τ) hkg ys' hs (hs.knows hg) hy.2).trans
        (alike_run hkf xs' (run_keeps Step.booked ys' hs)
          ((hs.knows hf).mono (run_flights_subset ys' hy.2)) hx.2)
      exact hfirst.symm.trans hsecond

end

/-! ## §7. Ends of a test. -/

end Session

/-- A way in which a test under way comes to its end. -/
inductive Ending (f : Flight) where
  /-- Something arrives with which it comes to a result: the executor's value
  or failure, or that a credential is missing. -/
  | comes (b : Session.Arrival) {r : Except Error Value} (h : f.outcome? b = some r)
  /-- Its node is cancelled, and it is woken with whatever arrives then. -/
  | isCancelled (b : Session.Arrival)

/-- What happens when a test ends, at a time. -/
def Ending.acts {f : Flight} (d : Nat) : Ending f → List Act
  | .comes b _ => [.resume f.permit.number b d]
  | .isCancelled b => [.cancel f.permit.node, .resume f.permit.number b d]

theorem Ending.parallel {f : Flight} {τ : Nat → Nat} {d d' : Nat} (hd : τ d = τ d') (x : Ending f) :
    List.Forall₂ (Session.Parallel τ f) (x.acts d) (x.acts d') := by
  cases x with
  | comes b => exact .cons (.resume hd) .nil
  | isCancelled b => exact .cons .cancel (.cons (.resume hd) .nil)

/-- A store with its times read by `τ`. -/
def Store.retime (τ : Nat → Nat) (s : Store) : Store :=
  ⟨s.states.mapWithKey fun _ => NodeState.retime τ⟩

theorem Store.retime_id (s : Store) : s.retime id = s := by
  refine congrArg Store.mk (Table.ext_get? fun k => ?_)
  rw [Table.get?_mapWithKey, funext NodeState.retime_id, Option.map_id']

namespace Session

variable {s t : Session} {f : Flight} {τ : Nat → Nat} {k : String}

/-- A test whose node is cancelled has its signal fired. -/
theorem Booked.mem_fired_of_cancel (hs : s.Booked) (hf : f ∈ s.flights) :
    f.permit.number ∈ (s.gate.cancel f.permit.node).1.fired := by
  rw [hs.mem_fired_cancel hf]
  by_cases hfired : f.permit.number ∈ s.gate.fired
  · exact .inl hfired
  · exact .inr ⟨hs.silent f hf hfired, rfl⟩

/-- **A test returns at its end.** -/
theorem returns_at_end (hs : s.Booked) (hf : f ∈ s.flights) (x : Ending f) (d : Nat) :
    ∃ r, (s.answers (x.acts d)).getLast? = some (.resumed (.returns r)) := by
  cases x with
  | comes b h =>
    have hstep := step_perform s (.resume f.permit.number b d)
    by_cases hfired : f.permit.number ∈ s.gate.fired
    · exact ⟨_, congrArg some (hstep.of_fired hs hf hfired).2⟩
    · rcases hstep.of_silent hs hf hfired with ⟨r, -, hanswer, -⟩ | ⟨hnone, -⟩
      · exact ⟨r, congrArg some hanswer⟩
      · rw [h] at hnone
        cases hnone
  | isCancelled b =>
    have hcancel := step_perform s (.cancel f.permit.node)
    have hstep := step_perform (s.perform (.cancel f.permit.node)).1 (.resume f.permit.number b d)
    exact ⟨_, congrArg some
      (hstep.of_fired (hcancel.booked hs) hf (hs.mem_fired_of_cancel hf)).2⟩

/-! ## §8. The theorem. -/

/-- The events about a node are those of its part. -/
theorem map_kind_about (s : Session) (k : String) :
    (s.log.about k).map Event.kind = s.recordOf k := by
  unfold EventLog.about recordOf record
  rw [List.filter_map]
  rfl

/-- Sessions that are alike at every node have the same tests running, stores
that differ in times at most, and tell the same of each node. -/
theorem agree_of_alike (h : ∀ k, Alike τ k s t) :
    s.gate.running = t.gate.running ∧ s.store.retime τ = t.store.retime τ ∧
      ∀ k, ((s.log.about k).map Event.kind).map (EventKind.retime τ) =
        ((t.log.about k).map Event.kind).map (EventKind.retime τ) := by
  refine ⟨Table.ext_get? fun k => (h k).running, ?_, fun k => ?_⟩
  · refine congrArg Store.mk (Table.ext_get? fun k => ?_)
    rw [Table.get?_mapWithKey, Table.get?_mapWithKey]
    exact (h k).state
  · rw [map_kind_about, map_kind_about]
    exact (h k).events

theorem Alike.output?_eq (h : Alike τ k s t) : s.store.output? k = t.store.output? k := by
  have hread : ∀ st : Option NodeState,
      st.bind NodeState.output = (st.map (NodeState.retime τ)).bind NodeState.output := by
    intro st
    cases st <;> rfl
  unfold Store.output?
  rw [hread, hread (t.store.get? k), show _ = _ from h.state]

theorem Alike.isLive_eq {e : Edge} (h : Alike τ e.source s t) (g : FlowGraph) :
    g.isLive s.store e = g.isLive t.store e := by
  unfold FlowGraph.isLive
  cases g.node? e.source with
  | none => rfl
  | some n =>
    show (n.branch (s.store.get? e.source)).allows e = (n.branch (t.store.get? e.source)).allows e
    rw [← n.branch_retime τ, h.state, n.branch_retime]

/-- **Tests of different nodes may end in either order.**  Whatever their
ends are, each returns the same in both orders; the same tests are running
afterwards; the store and the events about each node are the same but for the
times, and the same altogether if the times are; every node sees the same,
and data flows along the same edges. -/
theorem ends_commute (w : Workflow) (acts : List Act) {f g : Flight} :
    let s := (ofWorkflow w).run acts
    f ∈ s.flights → g ∈ s.flights → f.permit.node ≠ g.permit.node →
    ∀ (x : Ending f) (y : Ending g) (d d' e e' : Nat),
      let first := (s.run (x.acts d)).run (y.acts e)
      let second := (s.run (y.acts e')).run (x.acts d')
      (∃ r, (s.answers (x.acts d)).getLast? = some (.resumed (.returns r)) ∧
        ((s.run (y.acts e')).answers (x.acts d')).getLast? = some (.resumed (.returns r))) ∧
      (∃ r, ((s.run (x.acts d)).answers (y.acts e)).getLast? = some (.resumed (.returns r)) ∧
        (s.answers (y.acts e')).getLast? = some (.resumed (.returns r))) ∧
      first.gate.runningNodes = second.gate.runningNodes ∧
      first.store.retime (fun _ => 0) = second.store.retime (fun _ => 0) ∧
      (∀ k, ((first.log.about k).map Event.kind).map (EventKind.retime fun _ => 0) =
        ((second.log.about k).map Event.kind).map (EventKind.retime fun _ => 0)) ∧
      (d = d' → e = e' → first.store = second.store ∧
        ∀ k, (first.log.about k).map Event.kind = (second.log.about k).map Event.kind) ∧
      (∀ k, first.context k = second.context k) ∧ first.liveEdges = second.liveEdges := by
  intro s hf hg hne x y d d' e e' first second
  have hs : s.Booked := booked_run w acts
  -- under the reading that drops the times the ends are parallel
  have hx : ∀ a b, List.Forall₂ (Parallel (fun _ => 0) f) (x.acts a) (x.acts b) :=
    fun _ _ => x.parallel (τ := fun _ => 0) rfl
  have hy : ∀ a b, List.Forall₂ (Parallel (fun _ => 0) g) (y.acts a) (y.acts b) :=
    fun _ _ => y.parallel (τ := fun _ => 0) rfl
  have halike : ∀ k, Alike (fun _ => 0) k first second :=
    alike_of_orders hs hf hg hne (hx d d') (hy e e')
  obtain ⟨hrunning, hstore, hevents⟩ := agree_of_alike halike
  have hgraph : first.graph = second.graph := by
    rw [graph_run _ (on_of_forall₂ (hy e e')).1, graph_run _ (on_of_forall₂ (hx d d')).1,
      graph_run _ (on_of_forall₂ (hx d d')).2, graph_run _ (on_of_forall₂ (hy e e')).2]
  refine ⟨?_, ?_, congrArg Table.keys hrunning, hstore, hevents, ?_, ?_, ?_⟩
  · obtain ⟨r, hr⟩ := returns_at_end hs hf x d
    exact ⟨r, hr, (alike_own_of_orders hs hf hg hne (hx d d') (hy e e')).2 ▸ hr⟩
  · obtain ⟨r, hr⟩ := returns_at_end hs hg y e'
    exact ⟨r, (alike_own_of_orders hs hg hf hne.symm (hy e' e) (hx d' d)).2 ▸ hr, hr⟩
  · rintro rfl rfl
    have hsame : ∀ k, Alike id k first second :=
      alike_of_orders hs hf hg hne (x.parallel rfl) (y.parallel rfl)
    obtain ⟨-, hstore, hevents⟩ := agree_of_alike hsame
    rw [Store.retime_id, Store.retime_id] at hstore
    rw [funext EventKind.retime_id] at hevents
    simp only [List.map_id'] at hevents
    exact ⟨hstore, hevents⟩
  · intro k
    unfold context node
    rw [hgraph, second.graph.collect_congr fun id => (halike id).output?_eq]
  · unfold liveEdges FlowGraph.liveEdges
    rw [hgraph]
    exact List.filter_congr fun e _ => (halike e.source).isLive_eq second.graph

/-- One test fails and keeps the output of before, the other is cancelled
though its executor came to a value; the times differ between the orders. -/
theorem failure_and_cancellation_commute :
    let w : Workflow :=
      { nodes := [⟨"a", "A", .manual⟩, ⟨"b", "B", .manual⟩]
        edges := [.connect "a" "b" none]
        outputs := Table.empty.insert "a" (.bool true) }
    let s := (ofWorkflow w).run [.test "" "a", .test "" "b"]
    let fails (d : Nat) : List Act := [.resume 0 (.result (.error (.execution "a" "boom"))) d]
    let cancels (d : Nat) : List Act := [.cancel "b", .resume 1 (.result (.ok .null)) d]
    let first := (s.run (fails 3)).run (cancels 5)
    let second := (s.run (cancels 2)).run (fails 9)
    (∃ f ∈ s.flights, ∃ g ∈ s.flights, f.permit = ⟨"a", 0⟩ ∧ g.permit = ⟨"b", 1⟩) ∧
      (∃ r, (s.answers (fails 3)).getLast? = some (.resumed (.returns r)) ∧
        ((s.run (cancels 2)).answers (fails 9)).getLast? = some (.resumed (.returns r))) ∧
      first.store.retime (fun _ => 0) = second.store.retime (fun _ => 0) ∧
      first.liveEdges = second.liveEdges := by
  intro w s fails cancels first second
  have hpermits : (s.flight? 0).map Flight.permit = some ⟨"a", 0⟩ ∧
      (s.flight? 1).map Flight.permit = some ⟨"b", 1⟩ := by decide +kernel
  obtain ⟨f, hfind, hf⟩ := Option.map_eq_some_iff.1 hpermits.1
  obtain ⟨g, hgfind, hg⟩ := Option.map_eq_some_iff.1 hpermits.2
  have hfmem := (flight?_eq_some hfind).1
  have hgmem := (flight?_eq_some hgfind).1
  have hne : f.permit.node ≠ g.permit.node := by
    rw [hf, hg]
    decide
  have hcommute := ends_commute w [.test "" "a", .test "" "b"] hfmem hgmem hne
    (.comes (.result (.error (.execution "a" "boom"))) rfl) (.isCancelled (.result (.ok .null)))
    3 9 5 2
  simp only [Ending.acts, hf, hg] at hcommute
  obtain ⟨hreturns, -, -, hstore, -, -, -, hlive⟩ := hcommute
  exact ⟨⟨f, hfmem, g, hgmem, hf, hg⟩, hreturns, hstore, hlive⟩

end Session

end FlowBench
