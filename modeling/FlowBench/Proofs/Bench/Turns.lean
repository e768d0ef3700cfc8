/-
  FlowBench.Proofs.Bench.Turns
  ────────────────────────────
  **What a turn does.**

  `Turn` says case by case what the turn of one test does to a bench, guards
  included.  Whatever turns are taken, the session goes through a run of acts
  (`follows_run`), and every test that is over has the result that one of
  these acts gave back; so what is proved of every run of a session holds of
  every session on a bench.  The tests that wait on the bench have to be
  tests under way for that, no two of them the same (`Tied`).
-/
import FlowBench.Bench.Turns
import FlowBench.Proofs.Session.Cancellation

namespace FlowBench

/-- The result that a moment gives back to whoever asked for a test. -/
def Moment.GivesBack (m : Moment) (r : Except Error Value) : Prop :=
  m.answer = .resumed (.returns r) ∨ ∃ e, m.answer = .tested (.error e) ∧ r = .error e

/-! ## §1. Waking and calling. -/

namespace Session

variable {s : Session} {f : Flight}

/-- To finish a test is to wake it with its result. -/
theorem resume_result (s : Session) (f : Flight) (r : Except Error Value) (d : Nat) :
    s.resume f (.result r) d = ((s.finish f r d).1, .returns (s.finish f r d).2) := by
  unfold resume
  cases hc : s.gate.isCancelled f.permit with
  | false => rfl
  | true =>
    unfold finish
    rw [Gate.mayCommit_eq_false_of_isCancelled hc]
    rfl

/-- A test under way is woken by its number. -/
theorem Booked.perform_resume (h : s.Booked) (hf : f ∈ s.flights) (a : Arrival) (d : Nat) :
    s.perform (.resume f.permit.number a d) =
      ((s.resume f a d).1, .resumed (s.resume f a d).2) := by
  simp only [perform, h.flight?_eq hf]

/-- Waking one test leaves the others under way. -/
theorem Booked.mem_flights_resume (h : s.Booked) (hf : f ∈ s.flights) (a : Arrival) (d : Nat)
    {g : Flight} (hg : g ∈ s.flights) (hne : g.permit.number ≠ f.permit.number) :
    g ∈ (s.resume f a d).1.flights := by
  have hs := step_of_perform (h.perform_resume hf a d)
  refine hs.mem_flights hg ?_
  rintro ⟨⟨b, d', hact⟩, -⟩
  injection hact with hnumber
  exact hne hnumber.symm

end Session

/-- A call is answered, or waits behind the others. -/
theorem Script.call_cases (s : Script) (number : Nat) (request : TestRequest) :
    (∃ script r, s.call number request = (script, .answer r) ∧ script.waiting = s.waiting ∧
        script.released = s.released) ∨
      ∃ script v, s.call number request = (script, .wait v) ∧
        script.waiting = s.waiting ++ [number] ∧ script.released = s.released := by
  unfold Script.call
  dsimp only
  split
  · exact .inl ⟨_, _, rfl, rfl, rfl⟩
  · exact .inl ⟨_, _, rfl, rfl, rfl⟩
  · exact .inl ⟨_, _, rfl, rfl, rfl⟩
  · split
    · exact .inl ⟨_, _, rfl, rfl, rfl⟩
    · exact .inr ⟨_, _, rfl, rfl, rfl⟩

/-! ## §2. What ties a bench together. -/

namespace Bench

/-- A test waits at a place on the bench. -/
def WaitsAt (b : Bench) (i : Nat) (f : Flight) : Prop := ∃ v, b.stages[i]? = some (.waiting f v)

/-- The tests that wait are under way, and each waits at one place. -/
structure Tied (b : Bench) : Prop where
  booked : b.session.Booked
  waits : ∀ i f, b.WaitsAt i f → f ∈ b.session.flights
  apart : ∀ i j f g, b.WaitsAt i f → b.WaitsAt j g → f.permit.number = g.permit.number → i = j

/-- A bench that came from another by acts on its session; the tests that are
over since then have results that these acts gave back. -/
def Follows (b b' : Bench) : Prop :=
  b'.Tied ∧ ∃ acts, b'.session = b.session.run acts ∧
    ∀ (i : Nat) r, b'.stages[i]? = some (.over r) →
      b.stages[i]? = some (.over r) ∨ ∃ m ∈ b.session.moments acts, m.GivesBack r

variable {b b' b'' : Bench} {f : Flight} {number : Nat}

/-- A bench whose session stays as it is, while no test is over since. -/
theorem Tied.follows (h : b'.Tied) (hsession : b'.session = b.session)
    (hover : ∀ (i : Nat) r, b'.stages[i]? = some (.over r) → b.stages[i]? = some (.over r)) :
    b.Follows b' :=
  ⟨h, [], hsession, fun i r hi => .inl (hover i r hi)⟩

theorem Tied.refl (h : b.Tied) : b.Follows b := h.follows rfl fun _ _ hi => hi

theorem Follows.trans (h : b.Follows b') (h' : b'.Follows b'') : b.Follows b'' := by
  obtain ⟨-, acts, hacts, hover⟩ := h
  obtain ⟨htied, more, hmore, hover'⟩ := h'
  refine ⟨htied, acts ++ more, by rw [hmore, hacts, Session.run_append], fun i r hi => ?_⟩
  rw [Session.moments_append, ← hacts]
  rcases hover' i r hi with hi | ⟨m, hm, hr⟩
  · refine (hover i r hi).imp_right ?_
    rintro ⟨m, hm, hr⟩
    exact ⟨m, List.mem_append_left _ hm, hr⟩
  · exact .inr ⟨m, List.mem_append_right _ hm, hr⟩

/-- Only the session and the stages count. -/
theorem Tied.congr (h : b.Tied) (hsession : b'.session = b.session)
    (hstages : b'.stages = b.stages) : b'.Tied := by
  have hwaits : ∀ i g, b'.WaitsAt i g ↔ b.WaitsAt i g := by
    intro i g
    unfold WaitsAt
    rw [hstages]
  refine ⟨hsession ▸ h.booked, fun i g hg => ?_, fun i j g g' hg hg' => ?_⟩
  · rw [hsession]
    exact h.waits i g ((hwaits i g).1 hg)
  · exact h.apart i j g g' ((hwaits i g).1 hg) ((hwaits j g').1 hg')

theorem session_giveTurn? (b : Bench) (next : Option Nat) :
    (b.giveTurn? next).session = b.session := by
  cases next with
  | none => rfl
  | some n =>
    show (if _ then b else _).session = _
    split <;> rfl

theorem stages_giveTurn? (b : Bench) (next : Option Nat) :
    (b.giveTurn? next).stages = b.stages := by
  cases next with
  | none => rfl
  | some n =>
    show (if _ then b else _).stages = _
    split <;> rfl

theorem script_giveTurn? (b : Bench) (next : Option Nat) :
    (b.giveTurn? next).script = b.script := by
  cases next with
  | none => rfl
  | some n =>
    show (if _ then b else _).script = _
    split <;> rfl

theorem Tied.same (h : b.Tied) (hsession : b'.session = b.session)
    (hstages : b'.stages = b.stages) : b.Follows b' :=
  (h.congr hsession hstages).follows hsession fun i r hi => by rwa [hstages] at hi

theorem Tied.giveTurn? (h : b.Tied) (next : Option Nat) : b.Follows (b.giveTurn? next) :=
  h.same (session_giveTurn? b next) (stages_giveTurn? b next)

/-- An act that wakes no test leaves all of them under way. -/
theorem Tied.act (h : b.Tied) {a : Act} (hwakes : ∀ number x d, a ≠ .resume number x d) :
    b.Follows { b with session := (b.session.perform a).1 } := by
  have hs := Session.step_perform b.session a
  refine ⟨⟨hs.booked h.booked, fun i g hg => ?_, h.apart⟩, [a], rfl, fun i r hi => .inl hi⟩
  refine hs.mem_flights (h.waits i g hg) ?_
  rintro ⟨⟨x, d, hact⟩, -⟩
  exact hwakes _ x d hact

/-! ## §3. Stages. -/

theorem getElem?_setStage (b : Bench) (stage : Stage) (i : Nat) :
    (b.setStage number stage).stages[i]? =
      if number = i then if number < b.stages.size then some stage else none
      else b.stages[i]? :=
  Array.getElem?_setIfInBounds

/-- Where a test was put is its stage; the others are where they were. -/
theorem stage_cases {stage other : Stage} {i : Nat}
    (h : (b.setStage number stage).stages[i]? = some other) :
    (i = number ∧ other = stage) ∨ (i ≠ number ∧ b.stages[i]? = some other) := by
  rw [getElem?_setStage] at h
  split at h
  · next heq =>
    split at h
    · exact .inl ⟨heq.symm, (Option.some.inj h).symm⟩
    · cases h
  · next hne => exact .inr ⟨fun heq => hne heq.symm, h⟩

/-- A test that is over waits nowhere. -/
theorem WaitsAt.of_over {r : Except Error Value} {i : Nat} {g : Flight}
    (h : (b.setStage number (.over r)).WaitsAt i g) : i ≠ number ∧ b.WaitsAt i g := by
  obtain ⟨v, hv⟩ := h
  obtain ⟨hne, hv⟩ := (stage_cases hv).resolve_left nofun
  exact ⟨hne, v, hv⟩

theorem WaitsAt.of_waiting {v : Value} {i : Nat} {g : Flight}
    (h : (b.setStage number (.waiting f v)).WaitsAt i g) :
    (i = number ∧ g = f) ∨ (i ≠ number ∧ b.WaitsAt i g) := by
  obtain ⟨w, hw⟩ := h
  rcases stage_cases hw with ⟨hi, heq⟩ | ⟨hne, hw⟩
  · cases heq
    exact .inl ⟨hi, rfl⟩
  · exact .inr ⟨hne, w, hw⟩

/-- A test that is woken where it waits, and returns, follows by one act. -/
theorem Tied.over (h : b.Tied) (hf : f ∈ b.session.flights)
    (halone : ∀ i g, b.WaitsAt i g → g.permit.number = f.permit.number → i = number)
    {a : Session.Arrival} {r : Except Error Value} (hr : (b.session.resume f a 0).2 = .returns r)
    (script : Script) :
    b.Follows
      ({ b with session := (b.session.resume f a 0).1, script := script }.setStage number
        (.over r)) := by
  have hperform := h.booked.perform_resume hf a 0
  have hs := Session.step_of_perform hperform
  refine ⟨⟨hs.booked h.booked, ?_, ?_⟩, [.resume f.permit.number a 0],
    (congrArg Prod.fst hperform).symm, ?_⟩
  · intro i g hg
    obtain ⟨hne, hg⟩ := hg.of_over
    exact h.booked.mem_flights_resume hf a 0 (h.waits i g hg) fun heq => hne (halone i g hg heq)
  · intro i j g g' hg hg'
    exact h.apart i j g g' hg.of_over.2 hg'.of_over.2
  · intro i r' hi
    rcases stage_cases hi with ⟨-, heq⟩ | ⟨-, hi⟩
    · cases heq
      refine .inr ⟨_, List.mem_singleton_self _, .inl ?_⟩
      show (b.session.perform _).2 = _
      rw [hperform, hr]
    · exact .inl hi

theorem Tied.finish (h : b.Tied) (hf : f ∈ b.session.flights)
    (halone : ∀ i g, b.WaitsAt i g → g.permit.number = f.permit.number → i = number)
    (r : Except Error Value) : b.Follows (b.finish number f r) := by
  have hresume := b.session.resume_result f r 0
  have hover := h.over hf halone (congrArg Prod.snd hresume) b.script
  rw [hresume] at hover
  exact hover

theorem Tied.wait (h : b.Tied) (hf : f ∈ b.session.flights)
    (halone : ∀ i g, b.WaitsAt i g → g.permit.number ≠ f.permit.number) (v : Value) :
    b.Follows (b.setStage number (.waiting f v)) := by
  refine Tied.follows ⟨h.booked, ?_, ?_⟩ rfl fun i r hi => ((stage_cases hi).resolve_left nofun).2
  · intro i g hg
    rcases hg.of_waiting with ⟨-, rfl⟩ | ⟨-, hg⟩
    · exact hf
    · exact h.waits i g hg
  · intro i j g g' hg hg' heq
    rcases hg.of_waiting with ⟨hi, hgf⟩ | ⟨-, hold⟩
    · rcases hg'.of_waiting with ⟨hj, -⟩ | ⟨-, hold'⟩
      · rw [hi, hj]
      · exact absurd (heq.symm.trans (by rw [hgf])) (halone j g' hold')
    · rcases hg'.of_waiting with ⟨-, hgf'⟩ | ⟨-, hold'⟩
      · exact absurd (heq.trans (by rw [hgf'])) (halone i g hold)
      · exact h.apart i j g g' hold hold' heq

/-! ## §4. Turns. -/

/-- What a turn of the test with a number does to a bench, case by case. -/
inductive Turn (b : Bench) (number : Nat) : Bench → Prop where
  /-- Nobody was asked for, or the test is over. -/
  | nothing (hasked : ∀ node, b.stages[number]? ≠ some (.asked node))
      (hwaits : ∀ f, ¬ b.WaitsAt number f) : Turn b number b
  /-- The test is asked for in vain. -/
  | refused {clock node : String} {s' : Session} {e : Error}
      (h : b.stages[number]? = some (.asked node))
      (hs : b.session.perform (.test clock node) = (s', .tested (.error e))) :
      Turn b number ({ b with session := s' }.setStage number (.over (.error e)))
  /-- There is a result at once: that of the executor, or that credentials are
  missing. -/
  | answered {clock node : String} {s' : Session} {f : Flight} {script : Script}
      {r : Except Error Value} (h : b.stages[number]? = some (.asked node))
      (hs : b.session.perform (.test clock node) = (s', .tested (.ok f)))
      (hwaiting : script.waiting = b.script.waiting)
      (hreleased : script.released = b.script.released) :
      Turn b number ({ b with session := s', script := script }.finish number f r)
  /-- The executor holds its result back. -/
  | held {clock node : String} {s' : Session} {f : Flight} {script : Script} {v : Value}
      (h : b.stages[number]? = some (.asked node))
      (hs : b.session.perform (.test clock node) = (s', .tested (.ok f)))
      (hwaiting : script.waiting = b.script.waiting ++ [number])
      (hreleased : script.released = b.script.released) :
      Turn b number ({ b with session := s', script := script }.setStage number (.waiting f v))
  /-- The test waits on. -/
  | patient {f : Flight} (h : b.WaitsAt number f) (hreleased : number ∉ b.script.released)
      (hsilent : f.permit.number ∉ b.session.gate.fired) : Turn b number b
  /-- The test goes on with what was held back. -/
  | released {f : Flight} {v : Value} {r : Except Error Value} (h : b.WaitsAt number f)
      (hreleased : number ∈ b.script.released)
      (hsilent : f.permit.number ∉ b.session.gate.fired)
      (hr : (b.session.resume f (.result (.ok v)) 0).2 = .returns r) :
      Turn b number
        ({ b with
            session := (b.session.resume f (.result (.ok v)) 0).1
            script := b.script.leave number }.setStage number (.over r))
  /-- The test was cancelled; its release, if it has one, goes to the next. -/
  | cancelled {f : Flight} {r : Except Error Value} (h : b.WaitsAt number f)
      (hfires : f.permit.number ∈ b.session.gate.fired)
      (hr : (b.session.resume f .nothing 0).2 = .returns r) :
      Turn b number
        (({ b with
            session := (b.session.resume f .nothing 0).1
            script := (b.script.withdraw number).1 }.setStage number (.over r)).giveTurn?
          (b.script.withdraw number).2)

theorem turn_begin (clock : String) {node : String} (h : b.stages[number]? = some (.asked node)) :
    b.Turn number (b.begin clock number node) := by
  cases hstart : b.session.start clock node with
  | mk s' started =>
    have hperform : b.session.perform (.test clock node) = (s', .tested started) := by
      simp only [Session.perform, hstart]
    simp only [Bench.begin, hstart]
    cases started with
    | error e => exact .refused h hperform
    | ok f =>
      cases hcredentials : ({ b with session := s' } : Bench).credentialsOf f with
      | error e =>
        simp only [hcredentials]
        exact .answered h hperform rfl rfl
      | ok credentials =>
        simp only [hcredentials]
        rcases b.script.call_cases number (f.request credentials) with
          ⟨script, r, hcall, hwaiting, hreleased⟩ | ⟨script, v, hcall, hwaiting, hreleased⟩
        · rw [hcall]
          exact .answered h hperform hwaiting hreleased
        · rw [hcall]
          exact .held h hperform hwaiting hreleased

/-- A test that waits goes on exactly if it was released or cancelled. -/
theorem turn_resume {v : Value} (h : b.stages[number]? = some (.waiting f v)) :
    b.Turn number (b.resume number f v) := by
  unfold Bench.resume
  cases hc : b.session.gate.isCancelled f.permit with
  | true =>
    have hreturns : ∀ a, b.session.resume f a 0 =
        ((b.session.abandon f).1, .returns (b.session.abandon f).2) := by
      intro a
      unfold Session.resume
      rw [hc]
      rfl
    have hfires := (b.session.gate.isCancelled_iff f.permit).1 hc
    have hturn := Turn.cancelled ⟨v, h⟩ hfires (congrArg Prod.snd (hreturns .nothing))
    rw [hreturns] at hturn
    dsimp only
    rw [hreturns]
    simpa using hturn
  | false =>
    have hsilent := (b.session.gate.isCancelled_eq_false_iff f.permit).1 hc
    cases hrel : b.script.isReleased number with
    | true =>
      have hmem : number ∈ b.script.released := by simpa [Script.isReleased] using hrel
      have hresult := b.session.resume_result f (.ok v) 0
      have hturn := Turn.released ⟨v, h⟩ hmem hsilent (congrArg Prod.snd hresult)
      rw [hresult] at hturn
      dsimp only
      rw [if_pos rfl, hresult]
      exact hturn
    | false =>
      have hnot : number ∉ b.script.released := by simpa [Script.isReleased] using hrel
      have hwaits : b.session.resume f .nothing 0 = (b.session, .waits) := by
        unfold Session.resume
        rw [hc]
        rfl
      dsimp only
      rw [if_neg (by simp), hwaits]
      exact .patient ⟨v, h⟩ hnot hsilent

/-- **What `takeTurn` does is a turn.** -/
theorem turn_takeTurn (b : Bench) (clock : String) (number : Nat) :
    b.Turn number (b.takeTurn clock number) := by
  unfold Bench.takeTurn
  split
  · next node hasked => exact turn_begin clock hasked
  · next f v hwaits => exact turn_resume hwaits
  · next hasked hwaits =>
    refine .nothing hasked ?_
    rintro f ⟨v, hv⟩
    exact hwaits f v hv

/-- A test that is asked for is started; it is not one of those that wait. -/
theorem Tied.start (h : b.Tied) {clock node : String} {s' : Session}
    (hs : b.session.perform (.test clock node) = (s', .tested (.ok f))) (script : Script) :
    b.Follows { b with session := s', script := script } ∧ f ∈ s'.flights ∧
      ∀ i g, b.WaitsAt i g → g.permit.number ≠ f.permit.number := by
  obtain ⟨hpermit, -, hf, -⟩ := (Session.step_of_perform hs).of_started
  have hact := h.act (a := .test clock node) (by simp)
  rw [hs] at hact
  refine ⟨⟨hact.1.congr rfl rfl, hact.2⟩, hf, fun i g hg heq => ?_⟩
  have hlt := h.booked.numbered g (h.waits i g hg)
  rw [heq, hpermit] at hlt
  exact Nat.lt_irrefl _ hlt

/-- **A turn is taken by acts.** -/
theorem Turn.follows (hturn : b.Turn number b') (h : b.Tied) : b.Follows b' := by
  cases hturn with
  | nothing => exact h.refl
  | patient => exact h.refl
  | @refused clock node s' e _ hs =>
    have hact := h.act (a := .test clock node) (by simp)
    rw [hs] at hact
    refine ⟨⟨hact.1.booked, fun i g hg => ?_, fun i j g g' hg hg' => ?_⟩,
      [.test clock node], ?_, ?_⟩
    · exact hact.1.waits i g hg.of_over.2
    · exact hact.1.apart i j g g' hg.of_over.2 hg'.of_over.2
    · exact (congrArg Prod.fst hs).symm
    · -- the one test that is over since has the answer of the act
      intro i r hi
      rcases stage_cases hi with ⟨-, heq⟩ | ⟨-, hi⟩
      · cases heq
        exact .inr ⟨_, List.mem_singleton_self _, .inr ⟨e, congrArg Prod.snd hs, rfl⟩⟩
      · exact .inl hi
  | answered _ hs =>
    obtain ⟨hstart, hf, hnew⟩ := h.start hs _
    exact hstart.trans (hstart.1.finish hf (fun i g hg heq => absurd heq (hnew i g hg)) _)
  | held _ hs =>
    obtain ⟨hstart, hf, hnew⟩ := h.start hs _
    exact hstart.trans (hstart.1.wait hf hnew _)
  | released hwaits _ _ hr =>
    exact h.over (h.waits _ _ hwaits) (fun i g hg heq => h.apart i _ g _ hg hwaits heq) hr _
  | cancelled hwaits _ hr =>
    have hover := h.over (h.waits _ _ hwaits)
      (fun i g hg heq => h.apart i _ g _ hg hwaits heq) hr (b.script.withdraw number).1
    exact hover.trans (hover.1.giveTurn? _)

theorem Tied.takeTurns (clock : String) : ∀ (left : Nat) {b : Bench}, b.Tied →
    b.Follows (b.takeTurns clock left)
  | 0, b, h => h.refl
  | left + 1, b, h => by
    unfold Bench.takeTurns
    split
    · exact h.refl
    · next number rest _ =>
      have hrest : b.Follows { b with turns := rest } := h.same rfl rfl
      have hturn := (turn_takeTurn _ clock number).follows hrest.1
      exact hrest.trans (hturn.trans (Tied.takeTurns clock left hturn.1))

/-- **Running the tests of a bench takes its session through a run of acts**,
and leaves the bench tied together. -/
theorem follows_run (h : b.Tied) (clock : String) : b.Follows (b.run clock) :=
  h.takeTurns clock _

/-! ## §5. Between the turns. -/

/-- A test that is asked for neither waits nor is over. -/
theorem getElem?_ask (b : Bench) (node : String) (i : Nat) :
    (b.ask node).1.stages[i]? = if i = b.stages.size then some (.asked node) else b.stages[i]? := by
  have hstages : (b.ask node).1.stages = b.stages.push (.asked node) :=
    stages_giveTurn? _ (some b.stages.size)
  rw [hstages, Array.getElem?_push]

theorem WaitsAt.of_ask {node : String} {i : Nat} (h : (b.ask node).1.WaitsAt i f) :
    b.WaitsAt i f := by
  obtain ⟨v, hv⟩ := h
  rw [getElem?_ask] at hv
  split at hv
  · cases hv
  · exact ⟨v, hv⟩

theorem Tied.ask (h : b.Tied) (node : String) : b.Follows (b.ask node).1 := by
  have hsession : (b.ask node).1.session = b.session := session_giveTurn? _ (some b.stages.size)
  refine Tied.follows ⟨?_, fun i g hg => ?_, fun i j g g' hg hg' => ?_⟩ hsession fun i r hi => ?_
  · rw [hsession]
    exact h.booked
  · rw [hsession]
    exact h.waits i g hg.of_ask
  · exact h.apart i j g g' hg.of_ask hg'.of_ask
  · rw [getElem?_ask] at hi
    split at hi
    · cases hi
    · exact hi

theorem Tied.release (h : b.Tied) : b.Follows b.release := by
  have hscript : b.Follows { b with script := b.script.release.1 } := h.same rfl rfl
  exact hscript.trans (hscript.1.giveTurn? b.script.release.2)

theorem Tied.cancel (h : b.Tied) (node : String) : b.Follows (b.cancel node).1 := by
  have hact := h.act (a := .cancel node) (by simp)
  exact hact.trans (hact.1.giveTurn? (b.runningTest? node))

theorem Tied.removeNode (h : b.Tied) {id : String} (hremove : b.removeNode id = .ok b') :
    b.Follows b' := by
  unfold Bench.removeNode at hremove
  cases hsession : b.session.removeNode id with
  | error e =>
    rw [hsession] at hremove
    cases hremove
  | ok session =>
    rw [hsession] at hremove
    cases hremove
    have hact := h.act (a := .removeNode id) (by simp)
    simp only [Session.perform, hsession] at hact
    exact hact.trans (hact.1.giveTurn? _)

/-- A new bench is tied together. -/
theorem tied_ofWorkflow (w : Workflow) (script : Script) (source : Option (Table Value)) :
    ({ session := .ofWorkflow w, script := script, source := source } : Bench).Tied where
  booked := Session.booked_run w []
  waits := by
    rintro i f ⟨v, hv⟩
    simp at hv
  apart := by
    rintro i j f g ⟨v, hv⟩
    simp at hv

end Bench

end FlowBench
