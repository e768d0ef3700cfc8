/-
  FlowBench.Proofs.Session.Cancellation
  ─────────────────────────────────────
  **A test that was cancelled leaves nothing behind.**

  Several tests of one node may be under way at once: one that was cancelled
  and was not woken since, a newer one, and older ones of a node that was
  removed and added again.  Each is known by the number of its permit.

  While a test is under way its signal tells whether its node was cancelled
  or removed since it was admitted (`run_under_way`); once it has returned
  nobody meets its number again (`run_gone`).  Together they say what each
  wake of a test does to the store, and that only one of them does anything.
-/
import FlowBench.Proofs.Session.Permits
import FlowBench.Proofs.Store

namespace FlowBench

/-! ## §1. What is said of a moment. -/

namespace Moment

/-- The test with a number is woken. -/
def Wakes (m : Moment) (number : Nat) : Prop := ∃ a duration, m.act = .resume number a duration

/-- The test with a number returns. -/
def Returns (m : Moment) (number : Nat) : Prop :=
  m.Wakes number ∧ ∃ r, m.answer = .resumed (.returns r)

/-- The running test of a node is ended from outside: the node is cancelled
while it runs, or removed. -/
def Ends (m : Moment) (node : String) : Prop :=
  (m.act = .cancel node ∧ m.answer = .cancelled true) ∨
    (m.act = .removeNode node ∧ m.answer = .removed (.ok ()))

end Moment

/-- What a result that counts leaves in the store: an output without an
error, or an error next to the output of before; other nodes keep what is
known of them. -/
def Recorded (node : String) (r : Except Error Value) (duration : Nat) (before after : Store) :
    Prop :=
  (match r with
    | .ok v => after.output? node = some v ∧ after.error? node = none
    | .error e => after.output? node = before.output? node ∧
        after.error? node = some ⟨e.userMessage, duration⟩) ∧
    ∀ id, id ≠ node → after.get? id = before.get? id

theorem recorded_succeed (st : Store) (node : String) (v : Value) (d : Nat) :
    Recorded node (.ok v) d st (st.succeed node v d) := by
  unfold Recorded Store.output? Store.error?
  refine ⟨⟨?_, ?_⟩, fun id hid => ?_⟩
  · rw [Store.get?_succeed, if_pos rfl]
    rfl
  · rw [Store.get?_succeed, if_pos rfl]
    rfl
  · rw [Store.get?_succeed, if_neg hid]

theorem recorded_fail (st : Store) (node : String) (e : Error) (d : Nat) :
    Recorded node (.error e) d st (st.fail node e.userMessage d) := by
  unfold Recorded Store.output? Store.error?
  refine ⟨⟨?_, ?_⟩, fun id hid => ?_⟩
  · rw [Store.get?_fail, if_pos rfl]
    -- a node of which nothing is known has no output before or after
    cases st.get? node <;> rfl
  · rw [Store.get?_fail, if_pos rfl]
    rfl
  · rw [Store.get?_fail, if_neg hid]

namespace Session

variable {s s' : Session} {a : Act} {answer : Answer} {f : Flight}

theorem recorded_commit (s : Session) (f : Flight) (r : Except Error Value) (d : Nat) :
    Recorded f.permit.node r d s.store (s.commit f r d).store := by
  cases r with
  | ok v => exact recorded_succeed s.store f.permit.node v d
  | error e => exact recorded_fail s.store f.permit.node e d

/-! ## §2. A test under way. -/

/-- A test under way is found by its number. -/
theorem Booked.flight?_eq (h : s.Booked) (hf : f ∈ s.flights) :
    s.flight? f.permit.number = some f := by
  cases hfound : s.flight? f.permit.number with
  | none =>
    unfold flight? at hfound
    exact absurd (decide_eq_true rfl) (List.find?_eq_none.1 hfound f hf)
  | some g =>
    obtain ⟨hg, hnum⟩ := flight?_eq_some hfound
    rw [h.unique hg hf hnum]

/-- A test is under way until it returns. -/
theorem Step.mem_flights (hs : Step s a s' answer) (hf : f ∈ s.flights)
    (hopen : ¬ (Moment.mk s a s' answer).Returns f.permit.number) : f ∈ s'.flights := by
  -- what ends another test leaves this one where it is
  have other : ∀ {g : Flight} {number : Nat} {b : Arrival} {d : Nat} {r : Except Error Value},
      s.flight? number = some g → a = .resume number b d → answer = .resumed (.returns r) →
      f ∈ s.flights.filter fun x => x.permit.number ≠ g.permit.number := by
    intro g number b d r hg hact hans
    refine List.mem_filter.2 ⟨hf, ?_⟩
    rw [decide_eq_true_eq]
    intro heq
    refine hopen ⟨⟨b, d, ?_⟩, r, hans⟩
    rw [heq, (flight?_eq_some hg).2]
    exact hact
  cases hs with
  | rejected | unknown | stray | waiting | asking | idle | cancelled | notAdded | notRenamed
    | notRemoved | notConnected | added | renamed | removed => exact hf
  | connected => split <;> exact hf
  | started => exact List.mem_append_left _ hf
  | abandoned hg => exact other hg rfl rfl
  | settled hg =>
    rw [flights_land, flights_commit]
    exact other hg rfl rfl

/-- Cancelling a node fires the signal of its test and of no other. -/
theorem Booked.mem_fired_cancel (h : s.Booked) (hf : f ∈ s.flights) (id : String) :
    f.permit.number ∈ (s.gate.cancel id).1.fired ↔
      f.permit.number ∈ s.gate.fired ∨
        (s.gate.running.get? id = some f.permit.number ∧ id = f.permit.node) := by
  rw [Gate.mem_fired_cancel]
  refine or_congr_right ⟨fun hrun => ⟨hrun, ?_⟩, fun hrun => hrun.1⟩
  obtain ⟨_, g, hg, hperm⟩ := h.held id _ hrun
  rw [← h.unique hg hf (by rw [hperm]), hperm]

/-- The signal of a test under way fires when its node is cancelled or
removed, and at no other moment. -/
theorem Step.mem_fired_iff (hs : Step s a s' answer) (h : s.Booked) (hf : f ∈ s.flights) :
    f.permit.number ∈ s'.gate.fired ↔
      f.permit.number ∈ s.gate.fired ∨ (Moment.mk s a s' answer).Ends f.permit.node := by
  -- a silent test holds the entry of its node, so ending the node ends it
  have hends : ∀ {id : String}, f.permit.number ∈ (s.gate.cancel id).1.fired ↔
      f.permit.number ∈ s.gate.fired ∨ id = f.permit.node := by
    intro id
    rw [h.mem_fired_cancel hf]
    by_cases hfired : f.permit.number ∈ s.gate.fired
    · simp [hfired]
    · refine or_congr_right ⟨fun hrun => hrun.2, fun hid => ⟨?_, hid⟩⟩
      rw [hid]
      exact h.silent f hf hfired
  unfold Moment.Ends
  cases hs with
  | cancelled => simpa using hends
  | removed => simpa using hends
  | rejected | stray | waiting | asking | idle | notAdded | notRenamed | notRemoved
    | notConnected | added | renamed => simp
  | unknown | started | abandoned | settled => simp
  | connected => split <;> simp

/-- **While a test is under way its signal tells whether its node was
cancelled or removed.** -/
theorem run_under_way : ∀ (acts : List Act) {s : Session}, s.Booked → f ∈ s.flights →
    (∀ m ∈ s.moments acts, ¬ m.Returns f.permit.number) →
    (s.run acts).Booked ∧ f ∈ (s.run acts).flights ∧
      (f.permit.number ∈ (s.run acts).gate.fired ↔
        f.permit.number ∈ s.gate.fired ∨ ∃ m ∈ s.moments acts, m.Ends f.permit.node)
  | [], s, h, hf, _ => ⟨h, hf, by simp [run, moments]⟩
  | a :: rest, s, h, hf, hopen => by
    have hs := step_perform s a
    have hfirst : ¬ (s.moment a).Returns f.permit.number := hopen _ (by simp [moments])
    have hrest : ∀ m ∈ (s.perform a).1.moments rest, ¬ m.Returns f.permit.number :=
      fun m hm => hopen m (by simp [moments, hm])
    -- after the first act the test is still under way, so the rest of the run applies
    obtain ⟨hb, hmem, hfired⟩ := run_under_way rest (hs.booked h) (hs.mem_flights hf hfirst) hrest
    refine ⟨hb, hmem, ?_⟩
    show f.permit.number ∈ ((s.perform a).1.run rest).gate.fired ↔ _
    rw [hfired, hs.mem_fired_iff h hf, or_assoc]
    simp [moments, moment]

/-! ## §3. A test that has returned. -/

/-- A number was given out and no test under way has it. -/
def Gone (s : Session) (number : Nat) : Prop :=
  number < s.gate.next ∧ ∀ g ∈ s.flights, g.permit.number ≠ number

theorem Step.gone {number : Nat} (hs : Step s a s' answer) (h : s.Gone number) :
    s'.Gone number := by
  obtain ⟨hlt, hnone⟩ := h
  cases hs with
  | rejected | stray | waiting | asking | idle | notAdded | notRenamed | notRemoved
    | notConnected | added | renamed => exact ⟨hlt, hnone⟩
  | connected => split <;> exact ⟨hlt, hnone⟩
  | cancelled => exact ⟨by simpa using hlt, hnone⟩
  | removed => exact ⟨by simpa using hlt, hnone⟩
  | unknown => exact ⟨by simp; omega, hnone⟩
  | started =>
    refine ⟨by simp; omega, ?_⟩
    intro g hg
    rcases List.mem_append.1 hg with hg | hg
    · exact hnone g hg
    · -- a new test takes the next number
      rw [List.mem_singleton.1 hg, permit_prepare]
      show s.gate.next ≠ number
      omega
  | abandoned =>
    exact ⟨by simpa using hlt, fun g hg => hnone g (List.mem_of_mem_filter hg)⟩
  | settled =>
    refine ⟨by simpa using hlt, fun g hg => hnone g ?_⟩
    rw [flights_land, flights_commit] at hg
    exact List.mem_of_mem_filter hg

/-- A test that returns is gone. -/
theorem Step.gone_of_returns {number : Nat} (hs : Step s a s' answer) (h : s.Booked)
    (hr : (Moment.mk s a s' answer).Returns number) : s'.Gone number := by
  -- both ways to return take the test out by its number
  have ended : ∀ {g : Flight}, s.flight? number = some g →
      number < s.gate.next ∧
        ∀ x ∈ s.flights.filter fun x => x.permit.number ≠ g.permit.number,
          x.permit.number ≠ number := by
    intro g hg
    obtain ⟨hmem, hnum⟩ := flight?_eq_some hg
    refine ⟨hnum ▸ h.numbered g hmem, fun x hx => ?_⟩
    have hne := (List.mem_filter.1 hx).2
    rw [decide_eq_true_eq, hnum] at hne
    exact hne
  obtain ⟨⟨b, d, hact⟩, r, hans⟩ := hr
  cases hs with
  | rejected | unknown | started | cancelled | idle | added | renamed | removed | connected
    | notAdded | notRenamed | notRemoved | notConnected => cases hact
  | stray | waiting | asking => cases hans
  | abandoned hg =>
    cases hact
    rw [Gone, gate_abandon, Gate.next_release, flights_abandon]
    exact ended hg
  | settled hg =>
    cases hact
    rw [Gone, gate_land, gate_commit, Gate.next_release, flights_land, flights_commit]
    exact ended hg

/-- **Nobody meets a number again whose test is gone.** -/
theorem run_gone {number : Nat} : ∀ (acts : List Act) {s : Session}, s.Gone number →
    ∀ m ∈ s.moments acts, m.Wakes number → m.answer = .stray ∧ m.after = m.before
  | [], _, _, m, hm, _ => by cases hm
  | a :: rest, s, h, m, hm, hw => by
    have hs := step_perform s a
    rcases List.mem_cons.1 hm with rfl | hm
    · -- nobody under way answers to the number
      obtain ⟨b, d, hact⟩ := hw
      have hnone : s.flight? number = none := by
        unfold flight?
        rw [List.find?_eq_none]
        intro g hg
        simpa using h.2 g hg
      change a = .resume number b d at hact
      subst hact
      simp [moment, perform, hnone]
    · exact run_gone rest (hs.gone h) m hm hw

/-! ## §4. What a wake does. -/

/-- A test that starts gets the next number, and its signal is silent. -/
theorem Step.of_started {clock id : String} (hs : Step s (.test clock id) s' (.tested (.ok f))) :
    f.permit = ⟨id, s.gate.next⟩ ∧ s'.store = s.store ∧ f ∈ s'.flights ∧
      s'.gate.fired = s.gate.fired := by
  cases hs with
  | started => exact ⟨rfl, rfl, by simp, rfl⟩

/-- A test whose signal has fired returns without a trace in the store,
whatever it is woken with. -/
theorem Step.of_fired {b : Arrival} {d : Nat}
    (hs : Step s (.resume f.permit.number b d) s' answer) (h : s.Booked) (hf : f ∈ s.flights)
    (hfired : f.permit.number ∈ s.gate.fired) :
    s'.store = s.store ∧ answer = .resumed (.returns (.error (.testCancelled f.permit.node))) := by
  have hfind := h.flight?_eq hf
  have hcancelled := (s.gate.isCancelled_iff f.permit).2 hfired
  -- the other ways to wake a test ask for a silent signal
  cases hs with
  | stray hnone => rw [hfind] at hnone; cases hnone
  | abandoned hg =>
    rw [hfind] at hg
    cases hg
    exact ⟨rfl, rfl⟩
  | waiting hg hc =>
    rw [hfind] at hg
    cases hg
    rw [hcancelled] at hc
    cases hc
  | asking hg hc =>
    rw [hfind] at hg
    cases hg
    rw [hcancelled] at hc
    cases hc
  | settled hg hm =>
    rw [hfind] at hg
    cases hg
    rw [Gate.mayCommit_eq_false_of_isCancelled hcancelled] at hm
    cases hm

/-- A test whose signal is silent keeps the result that it comes to, and
waits on while it comes to none. -/
theorem Step.of_silent {b : Arrival} {d : Nat}
    (hs : Step s (.resume f.permit.number b d) s' answer) (h : s.Booked) (hf : f ∈ s.flights)
    (hsilent : f.permit.number ∉ s.gate.fired) :
    (∃ r, f.outcome? b = some r ∧ answer = .resumed (.returns r) ∧
        Recorded f.permit.node r d s.store s'.store) ∨
      (f.outcome? b = none ∧ (∀ r, answer ≠ .resumed (.returns r)) ∧ s' = s) := by
  have hfind := h.flight?_eq hf
  cases hs with
  | stray hnone => rw [hfind] at hnone; cases hnone
  | abandoned hg hm =>
    rw [hfind] at hg
    cases hg
    rw [(h.mayCommit_iff hf).2 hsilent] at hm
    cases hm
  | waiting => exact .inr ⟨rfl, by simp, rfl⟩
  | asking hg _ hcred =>
    rw [hfind] at hg
    cases hg
    exact .inr ⟨by simp [Flight.outcome?, hcred], by simp, rfl⟩
  | settled hg _ hr =>
    rw [hfind] at hg
    cases hg
    exact .inl ⟨_, hr, rfl, recorded_commit s f _ d⟩

/-- A wake from which the test does not return changes nothing. -/
theorem Step.of_wake {number : Nat} (hs : Step s a s' answer)
    (hw : (Moment.mk s a s' answer).Wakes number)
    (hopen : ¬ (Moment.mk s a s' answer).Returns number) : s' = s := by
  obtain ⟨b, d, hact⟩ := hw
  cases hs with
  | rejected | unknown | started | cancelled | removed | added | renamed | connected => cases hact
  | stray | waiting | asking | idle | notAdded | notRenamed | notRemoved | notConnected => rfl
  | abandoned => exact absurd ⟨⟨b, d, hact⟩, _, rfl⟩ hopen
  | settled => exact absurd ⟨⟨b, d, hact⟩, _, rfl⟩ hopen

/-- Every moment of a run is a step. -/
theorem step_of_mem_moments {m : Moment} (acts : List Act) (hm : m ∈ s.moments acts) :
    Step m.before m.act m.after m.answer := by
  induction acts generalizing s with
  | nil => cases hm
  | cons a rest ih =>
    rcases List.mem_cons.1 hm with hm | hm
    · rw [hm]
      exact step_perform s a
    · exact ih hm

/-! ## §5. The fate of a test. -/

/-- **A test counts exactly when nobody ended it.**  A test of a node starts
after any `past`.  Starting it, and waking it as often as it goes on waiting,
leaves the store alone.  Suppose it is woken after `between`.

* If its node was cancelled or removed since it started, it returns
  `testCancelled` and the store stays as it is, even if a result arrived.
* If not, it returns the result that it comes to, which is then what the
  store holds of the node; without a result it waits on.

Once it has returned, its number is a stray whatever happens later, so that
it writes at most once. -/
theorem test_counts_unless_ended (w : Workflow) (past between later : List Act)
    (clock node : String) (s₁ : Session) (f : Flight)
    (hstart : ((ofWorkflow w).run past).perform (.test clock node) = (s₁, .tested (.ok f)))
    (hopen : ∀ m ∈ s₁.moments between, ¬ m.Returns f.permit.number)
    (b : Arrival) (duration : Nat) :
    let wake := (s₁.run between).moment (.resume f.permit.number b duration)
    let ended := ∃ m ∈ s₁.moments between, m.Ends node
    s₁.store = ((ofWorkflow w).run past).store ∧
    (∀ m ∈ s₁.moments between, m.Wakes f.permit.number → m.after.store = m.before.store) ∧
    (ended → wake.answer = .resumed (.returns (.error (.testCancelled node))) ∧
      wake.after.store = wake.before.store) ∧
    (¬ ended → ∀ r, f.outcome? b = some r → wake.answer = .resumed (.returns r) ∧
      Recorded node r duration wake.before.store wake.after.store) ∧
    (¬ ended → f.outcome? b = none → ¬ wake.Returns f.permit.number ∧
      wake.after.store = wake.before.store) ∧
    (wake.Returns f.permit.number → ∀ m ∈ wake.after.moments later,
      m.Wakes f.permit.number → m.answer = .stray ∧ m.after = m.before) := by
  intro wake ended
  have hbooked := booked_run w past
  have hs := step_perform ((ofWorkflow w).run past) (.test clock node)
  rw [hstart] at hs
  obtain ⟨hperm, hstore, hmem, hfired₁⟩ := hs.of_started
  have hnode : f.permit.node = node := by rw [hperm]
  -- the number is new, so nobody has fired its signal
  have hnew : f.permit.number ∉ s₁.gate.fired := by
    rw [hfired₁, hperm]
    exact fun h => absurd (hbooked.fired _ h) (Nat.lt_irrefl _)
  obtain ⟨hb, hf, hfired⟩ := run_under_way between (hs.booked hbooked) hmem hopen
  -- at the wake the signal has fired exactly if the node was ended in between
  have hended : f.permit.number ∈ (s₁.run between).gate.fired ↔ ended := by
    rw [hfired, hnode]
    exact or_iff_right hnew
  have hwake : Step (s₁.run between) _ wake.after wake.answer := step_perform _ _
  refine ⟨hstore, ?_, ?_, ?_, ?_, ?_⟩
  · intro m hm hw
    rw [(step_of_mem_moments between hm).of_wake hw (hopen m hm)]
  · intro he
    obtain ⟨hsame, hans⟩ := hwake.of_fired hb hf (hended.2 he)
    rw [hnode] at hans
    exact ⟨hans, hsame⟩
  · intro he r hr
    rcases hwake.of_silent hb hf (fun h => he (hended.1 h)) with ⟨r', hr', hans, hrec⟩ | ⟨hnone, _⟩
    · rw [hr] at hr'
      cases hr'
      rw [hnode] at hrec
      exact ⟨hans, hrec⟩
    · rw [hr] at hnone
      cases hnone
  · intro he hr
    rcases hwake.of_silent hb hf (fun h => he (hended.1 h)) with ⟨r', hr', _⟩ | ⟨_, hans, hsame⟩
    · rw [hr] at hr'
      cases hr'
    · exact ⟨fun h => h.2.elim hans, congrArg Session.store hsame⟩
  · intro hr
    exact run_gone later (hwake.gone_of_returns hb hr)

/-- A node is cancelled, removed, added again and tested again before the
first test is woken with its value: that test is cancelled, and the store
is what it was. -/
theorem test_of_readded_node_is_cancelled :
    let w : Workflow := { nodes := [⟨"n", "N", .manual⟩] }
    let between := [.cancel "n", .removeNode "n", .addNode "n" none .manual, .test "" "n"]
    let s := (ofWorkflow w).perform (.test "" "n")
    ∃ f, s.2 = .tested (.ok f) ∧
      (∀ m ∈ s.1.moments between, ¬ m.Returns f.permit.number) ∧
      (∃ m ∈ s.1.moments between, m.Ends "n") ∧
      let wake := (s.1.run between).moment (.resume f.permit.number (.result (.ok (.bool true))) 7)
      wake.answer = .resumed (.returns (.error (.testCancelled "n"))) ∧
        wake.after.store = wake.before.store := by
  intro w between s
  obtain ⟨f, hf⟩ : ∃ f, s.2 = .tested (.ok f) := ⟨_, rfl⟩
  have hstart : ((ofWorkflow w).run []).perform (.test "" "n") = (s.1, .tested (.ok f)) := by
    rw [← hf]
    rfl
  have hopen : ∀ m ∈ s.1.moments between, ¬ m.Returns f.permit.number := by
    rintro m hm ⟨⟨b, d, hact⟩, -⟩
    simp only [between, moments, moment, List.mem_cons, List.not_mem_nil, or_false] at hm
    rcases hm with rfl | rfl | rfl | rfl <;> cases hact
  have hended : ∃ m ∈ s.1.moments between, m.Ends "n" :=
    ⟨_, List.mem_cons_self, .inl ⟨rfl, rfl⟩⟩
  have hfate := test_counts_unless_ended w [] between [] "" "n" s.1 f hstart hopen
    (.result (.ok (.bool true))) 7
  exact ⟨f, hf, hopen, hended, hfate.2.2.1 hended⟩

end Session

end FlowBench
