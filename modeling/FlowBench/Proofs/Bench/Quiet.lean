/-
  FlowBench.Proofs.Bench.Quiet
  ────────────────────────────
  **A run goes on until no test can.**

  A test can go on if it was asked for, or if it waits and was released or
  cancelled; whatever makes it so gives it a turn (`Served`).  A turn leaves
  less to do than there was (`work`), so a run takes all the turns there are,
  and behind it no test can go on.

  `script_runs_until_quiet` puts this together with the acts that the session
  goes through, for whatever is done with a bench, in any order.
-/
import FlowBench.Proofs.Bench.Turns

namespace FlowBench

/-! ## §1. The calls that are held. -/

namespace Script

/-- The calls that wait, and those that were released and did not run since. -/
def held (s : Script) : List Nat := s.waiting ++ s.released

/-- A script that holds a call no more, for which another may be released. -/
structure Without (s : Script) (number : Nat) (next : Option Nat) (s' : Script) : Prop where
  held : ∀ i ∈ s'.held, i ∈ s.held ∧ i ≠ number
  once : s'.held.Nodup
  released : ∀ i ∈ s'.released, i ∈ s.released ∨ next = some i

variable {s s' : Script} {number : Nat}

theorem held_release (s : Script) : s.release.1.held.Perm s.held := by
  unfold release held
  split
  · exact .refl _
  · next n rest hwaiting =>
    rw [hwaiting]
    dsimp only
    rw [← List.append_assoc]
    exact List.perm_append_singleton n (rest ++ s.released)

/-- A release is for one call. -/
theorem mem_released_release (s : Script) (i : Nat) :
    i ∈ s.release.1.released ↔ i ∈ s.released ∨ s.release.2 = some i := by
  unfold release
  split
  · simp
  · simp [eq_comm]

/-- A call that was never held is not held. -/
theorem without_of_not_held (hnot : number ∉ s.held) (once : s.held.Nodup)
    (hwaiting : s'.waiting = s.waiting) (hreleased : s'.released = s.released) :
    s.Without number none s' := by
  have hheld : s'.held = s.held := by rw [held, held, hwaiting, hreleased]
  refine ⟨fun i hi => ?_, hheld ▸ once, fun i hi => .inl (hreleased ▸ hi)⟩
  rw [hheld] at hi
  exact ⟨hi, fun heq => hnot (heq ▸ hi)⟩

theorem without_leave (once : s.held.Nodup) (h : number ∈ s.released) :
    s.Without number none (s.leave number) := by
  have hnot : number ∉ s.waiting := fun hw => (List.nodup_append.1 once).2.2 _ hw _ h rfl
  have hsub : (s.leave number).held.Sublist s.held := List.filter_sublist.append_left s.waiting
  refine ⟨fun i hi => ⟨hsub.subset hi, ?_⟩, once.sublist hsub, fun i hi => ?_⟩
  · rintro rfl
    rcases List.mem_append.1 hi with hi | hi
    · exact hnot hi
    · exact of_decide_eq_true (List.mem_filter.1 hi).2 rfl
  · exact .inl (List.mem_of_mem_filter hi)

/-- The release of a call that is taken back goes to the next. -/
theorem without_withdraw (once : s.held.Nodup) (number : Nat) :
    s.Without number (s.withdraw number).2 (s.withdraw number).1 := by
  unfold withdraw
  split
  · next hreleased =>
    have hmem : number ∈ s.released := by simpa [isReleased] using hreleased
    have hleave := without_leave once hmem
    have hperm := held_release (s.leave number)
    refine ⟨fun i hi => hleave.held i (hperm.mem_iff.1 hi), hperm.nodup_iff.2 hleave.once, ?_⟩
    intro i hi
    refine ((mem_released_release _ i).1 hi).imp_left fun hi => ?_
    exact (hleave.released i hi).resolve_right (Option.some_ne_none i).symm
  · next hreleased =>
    have hnot : number ∉ s.released := by simpa [isReleased] using hreleased
    have hsub : (s.waiting.filter (· ≠ number) ++ s.released).Sublist s.held :=
      List.filter_sublist.append_right s.released
    refine ⟨fun i hi => ⟨hsub.subset hi, ?_⟩, once.sublist hsub, fun i hi => .inl hi⟩
    rintro rfl
    rcases List.mem_append.1 hi with hi | hi
    · exact of_decide_eq_true (List.mem_filter.1 hi).2 rfl
    · exact hnot hi

end Script

namespace Session

theorem gate_of_removeNode {s s' : Session} {id : String} (h : s.removeNode id = .ok s') :
    s'.gate = (s.gate.cancel id).1 := by
  unfold removeNode at h
  cases hw : s.workflow.removeNode id with
  | error e =>
    rw [hw] at h
    cases h
  | ok p =>
    rw [hw] at h
    cases h
    rfl

/-- Signals fire when a node is cancelled or removed, and at no other act. -/
theorem Step.fired_eq {s s' : Session} {a : Act} {answer : Answer} (hs : Step s a s' answer)
    (hcancel : ∀ id, a ≠ .cancel id) (hremove : ∀ id, a ≠ .removeNode id) :
    s'.gate.fired = s.gate.fired := by
  cases hs with
  | cancelled => exact absurd rfl (hcancel _)
  | removed => exact absurd rfl (hremove _)
  | connected => split <;> rfl
  | unknown | started | abandoned | settled => simp
  | rejected | stray | waiting | asking | idle | added | renamed | notAdded | notRenamed
    | notRemoved | notConnected => rfl

end Session

namespace Bench

variable {b b' : Bench} {f : Flight} {number : Nat} {late next : Option Nat}

/-! ## §2. Tests that can go on. -/

/-- The test with a number has something to do. -/
def CanGo (b : Bench) (i : Nat) : Prop :=
  (∃ node, b.stages[i]? = some (.asked node)) ∨
    ∃ f, b.WaitsAt i f ∧ (i ∈ b.script.released ∨ f.permit.number ∈ b.session.gate.fired)

/-- Every test that can go on has a turn, but for one that may be late; and
the calls that the script holds are those of tests that wait, each held
once. -/
structure Served (b : Bench) (late : Option Nat) : Prop where
  turn : ∀ i, b.CanGo i → i ∈ b.turns ∨ late = some i
  waits : ∀ i ∈ b.script.held, ∃ f, b.WaitsAt i f
  once : b.script.held.Nodup

theorem Served.mem_turns (h : b.Served none) {i : Nat} (hi : b.CanGo i) : i ∈ b.turns :=
  (h.turn i hi).resolve_right (Option.some_ne_none i).symm

theorem Served.mem_turns_of_ne (h : b.Served (some number)) {i : Nat} (hne : i ≠ number)
    (hi : b.CanGo i) : i ∈ b.turns :=
  (h.turn i hi).resolve_right fun heq => hne (Option.some.inj heq).symm

theorem mem_turns_giveTurn? (b : Bench) (next : Option Nat) (i : Nat) :
    i ∈ (b.giveTurn? next).turns ↔ i ∈ b.turns ∨ next = some i := by
  cases next with
  | none => simp [giveTurn?]
  | some n =>
    unfold giveTurn? giveTurn
    dsimp only
    split
    · next hmem =>
      rw [List.contains_iff_mem] at hmem
      refine ⟨.inl, fun h => h.elim id fun heq => ?_⟩
      rwa [← Option.some.inj heq]
    · simp [eq_comm]

/-- Who was late gets a turn. -/
theorem Served.giveTurn? (h : b.Served next) : (b.giveTurn? next).Served none := by
  have hwaits (i : Nat) (g : Flight) : (b.giveTurn? next).WaitsAt i g ↔ b.WaitsAt i g := by
    unfold WaitsAt
    rw [stages_giveTurn?]
  refine ⟨fun i hi => .inl ((mem_turns_giveTurn? b next i).2 (h.turn i ?_)), ?_, ?_⟩
  · unfold CanGo at hi ⊢
    simp only [hwaits, stages_giveTurn?, session_giveTurn?, script_giveTurn?] at hi
    exact hi
  · rw [script_giveTurn?]
    exact fun i hi => (h.waits i hi).imp fun g hg => (hwaits i g).2 hg
  · rw [script_giveTurn?]
    exact h.once

/-- A turn is not missed by a test that cannot go on. -/
theorem Served.of_stuck (h : b.Served (some number)) (hstuck : ¬ b.CanGo number) :
    b.Served none := by
  refine ⟨fun i hi => .inl ((h.turn i hi).resolve_right fun heq => ?_), h.waits, h.once⟩
  cases heq
  exact hstuck hi

/-- A session in which the same signals have fired serves the same tests. -/
theorem Served.session (h : b.Served late) {s' : Session}
    (hfired : s'.gate.fired = b.session.gate.fired) : { b with session := s' }.Served late := by
  refine ⟨fun i hi => h.turn i ?_, h.waits, h.once⟩
  unfold CanGo at hi ⊢
  rwa [hfired] at hi

theorem WaitsAt.not_asked {node : String} (h : b.WaitsAt number f) :
    b.stages[number]? ≠ some (.asked node) := by
  obtain ⟨v, hv⟩ := h
  rw [hv]
  nofun

/-- Two tests that wait at one place are one test. -/
theorem WaitsAt.eq {g : Flight} (h : b.WaitsAt number f) (h' : b.WaitsAt number g) : f = g := by
  obtain ⟨v, hv⟩ := h
  obtain ⟨v', hv'⟩ := h'
  rw [hv] at hv'
  cases hv'
  rfl

theorem WaitsAt.setStage {i : Nat} (h : b.WaitsAt i f) (hne : i ≠ number) (stage : Stage) :
    (b.setStage number stage).WaitsAt i f := by
  obtain ⟨v, hv⟩ := h
  exact ⟨v, by rw [getElem?_setStage, if_neg hne.symm, hv]⟩

/-- A test that ends is held no more, and who gets its release is late. -/
theorem Served.over (h : b.Served (some number)) {s' : Session} {script : Script}
    (hfired : s'.gate.fired = b.session.gate.fired) (hscript : b.script.Without number next script)
    (r : Except Error Value) :
    ({ b with session := s', script := script }.setStage number (.over r)).Served next := by
  refine ⟨fun i hi => ?_, fun i hi => ?_, hscript.once⟩
  · rcases hi with ⟨node, hnode⟩ | ⟨g, hg, hgoes⟩
    · obtain ⟨hne, hnode⟩ := (stage_cases hnode).resolve_left nofun
      exact .inl (h.mem_turns_of_ne hne (.inl ⟨node, hnode⟩))
    · obtain ⟨hne, hg⟩ := hg.of_over
      rcases hgoes with hreleased | hfires
      · exact (hscript.released i hreleased).imp_left fun hreleased =>
          h.mem_turns_of_ne hne (.inr ⟨g, hg, .inl hreleased⟩)
      · exact .inl (h.mem_turns_of_ne hne (.inr ⟨g, hg, .inr (hfired ▸ hfires)⟩))
  · obtain ⟨hheld, hne⟩ := hscript.held i hi
    obtain ⟨g, hg⟩ := h.waits i hheld
    exact ⟨g, WaitsAt.setStage (b := { b with session := s', script := script }) hg hne _⟩

/-- A test that has to wait waits behind the others. -/
theorem Served.wait (h : b.Served (some number)) {node : String}
    (hasked : b.stages[number]? = some (.asked node)) {s' : Session} {script : Script}
    (hfired : s'.gate.fired = b.session.gate.fired) (hsilent : f.permit.number ∉ s'.gate.fired)
    (hwaiting : script.waiting = b.script.waiting ++ [number])
    (hreleased : script.released = b.script.released) (v : Value) :
    ({ b with session := s', script := script }.setStage number (.waiting f v)).Served none := by
  have hnot : number ∉ b.script.held := fun hheld =>
    (h.waits number hheld).elim fun _ hg => hg.not_asked hasked
  have hheld : script.held.Perm (number :: b.script.held) := by
    rw [Script.held, hwaiting, hreleased, List.append_assoc, List.singleton_append]
    exact List.perm_middle
  have hsize : number < b.stages.size := (Array.getElem?_eq_some_iff.1 hasked).1
  refine ⟨fun i hi => .inl ?_, fun i hi => ?_, hheld.nodup_iff.2 (h.once.cons hnot)⟩
  · rcases hi with ⟨node', hnode⟩ | ⟨g, hg, hgoes⟩
    · obtain ⟨hne, hnode⟩ := (stage_cases hnode).resolve_left nofun
      exact h.mem_turns_of_ne hne (.inl ⟨node', hnode⟩)
    · rcases hg.of_waiting with ⟨rfl, rfl⟩ | ⟨hne, hg⟩
      · -- it was not released yet, and its signal is new
        rcases hgoes with hgoes | hgoes
        · exact absurd (List.mem_append_right _ (hreleased ▸ hgoes)) hnot
        · exact absurd hgoes hsilent
      · refine h.mem_turns_of_ne hne (.inr ⟨g, hg, hgoes.imp (fun hgoes => ?_) fun hgoes => ?_⟩)
        · exact hreleased ▸ hgoes
        · exact hfired ▸ hgoes
  · rcases List.mem_cons.1 (hheld.mem_iff.1 hi) with rfl | hi
    · refine ⟨f, v, ?_⟩
      rw [getElem?_setStage, if_pos rfl]
      exact if_pos hsize
    · obtain ⟨g, hg⟩ := h.waits i hi
      have hne : i ≠ number := fun heq => hnot (heq ▸ hi)
      exact ⟨g, WaitsAt.setStage (b := { b with session := s', script := script }) hg hne _⟩

/-- **A turn serves the test that was late.** -/
theorem Turn.served (hturn : b.Turn number b') (ht : b.Tied) (h : b.Served (some number)) :
    b'.Served none := by
  -- what is asked for is not held
  have hnew : ∀ {node : String}, b.stages[number]? = some (.asked node) → number ∉ b.script.held :=
    fun hasked hheld => (h.waits number hheld).elim fun _ hg => hg.not_asked hasked
  have htest : ∀ {clock node : String} {s' : Session} {answer : Answer},
      b.session.perform (.test clock node) = (s', answer) →
      s'.gate.fired = b.session.gate.fired := fun hs =>
    (Session.step_of_perform hs).fired_eq nofun nofun
  have hresume : ∀ {f : Flight} (a : Session.Arrival), b.WaitsAt number f →
      (b.session.resume f a 0).1.gate.fired = b.session.gate.fired := fun a hwaits =>
    (Session.step_of_perform (ht.booked.perform_resume (ht.waits _ _ hwaits) a 0)).fired_eq
      nofun nofun
  cases hturn with
  | nothing hasked hwaits =>
    refine h.of_stuck ?_
    rintro (⟨node, hnode⟩ | ⟨f, hf, -⟩)
    · exact hasked node hnode
    · exact hwaits f hf
  | patient hwaits hreleased hsilent =>
    refine h.of_stuck ?_
    rintro (⟨node, hnode⟩ | ⟨g, hg, hgoes⟩)
    · exact hwaits.not_asked hnode
    · obtain rfl := hwaits.eq hg
      exact hgoes.elim hreleased hsilent
  | refused hasked hs =>
    exact h.over (htest hs) (Script.without_of_not_held (hnew hasked) h.once rfl rfl) _
  | @answered clock node s' f script r hasked hs hwaiting hreleased =>
    have hfinish : (s'.finish f r 0).1.gate.fired = s'.gate.fired := by
      unfold Session.finish
      split <;> simp
    exact h.over (hfinish.trans (htest hs))
      (Script.without_of_not_held (hnew hasked) h.once hwaiting hreleased) _
  | @held clock node s' f script v hasked hs hwaiting hreleased =>
    refine h.wait hasked (htest hs) ?_ hwaiting hreleased v
    rw [htest hs]
    -- the number is the next one, and no signal has fired of numbers to come
    obtain ⟨hpermit, -⟩ := (Session.step_of_perform hs).of_started
    intro hfires
    have hlt := ht.booked.fired _ hfires
    rw [hpermit] at hlt
    exact Nat.lt_irrefl _ hlt
  | released hwaits hreleased =>
    exact h.over (hresume _ hwaits) (Script.without_leave h.once hreleased) _
  | cancelled hwaits =>
    exact (h.over (hresume _ hwaits) (Script.without_withdraw h.once number) _).giveTurn?

theorem Served.takeTurns (clock : String) : ∀ (left : Nat) {b : Bench}, b.Tied → b.Served none →
    (b.takeTurns clock left).Served none
  | 0, _, _, h => h
  | left + 1, b, ht, h => by
    unfold Bench.takeTurns
    split
    · exact h
    · next number rest hturns =>
      have hrest : { b with turns := rest }.Served (some number) := by
        refine ⟨fun i hi => ?_, h.waits, h.once⟩
        have hi := h.mem_turns hi
        rw [hturns, List.mem_cons] at hi
        exact hi.symm.imp_right fun heq => congrArg some heq.symm
      have htied : { b with turns := rest }.Tied := ht.congr rfl rfl
      have hturn := turn_takeTurn { b with turns := rest } clock number
      exact Served.takeTurns clock left (hturn.follows htied).1 (hturn.served htied hrest)

/-! ## §3. Turns come to an end. -/

/-- A test is not over. -/
def isOpen : Stage → Bool
  | .over _ => false
  | _ => true

/-- The turns to take and the tests that are not over. -/
def work (b : Bench) : Nat := b.turns.length + b.stages.toList.countP isOpen

theorem work_giveTurn?_le (b : Bench) (next : Option Nat) :
    (b.giveTurn? next).work ≤ b.work + 1 := by
  have hlength : (b.giveTurn? next).turns.length ≤ b.turns.length + 1 := by
    cases next with
    | none => exact Nat.le_succ _
    | some n =>
      unfold giveTurn? giveTurn
      dsimp only
      split <;> simp
  unfold work
  rw [stages_giveTurn?]
  omega

/-- A test that was not over is over, or is not over still. -/
theorem work_setStage (b : Bench) (stage : Stage) {old : Stage}
    (h : b.stages[number]? = some old) (hold : isOpen old = true) :
    (b.setStage number stage).work + (if isOpen stage then 0 else 1) = b.work := by
  obtain ⟨hlt, hget⟩ := Array.getElem?_eq_some_iff.1 h
  have hget' : b.stages.toList[number] = old := hget
  have hpos : 0 < b.stages.toList.countP isOpen :=
    List.countP_pos_iff.2 ⟨old, hget' ▸ List.getElem_mem hlt, hold⟩
  unfold work setStage
  dsimp only
  rw [Array.toList_setIfInBounds, List.countP_set hlt, hget', if_pos hold]
  split <;> omega

/-- **A turn makes no work.** -/
theorem Turn.work_le (hturn : b.Turn number b') : b'.work ≤ b.work := by
  have hset : ∀ {c : Bench} {old : Stage} (stage : Stage), c.stages[number]? = some old →
      isOpen old = true → (c.setStage number stage).work ≤ c.work := fun stage h hold =>
    Nat.le.intro (work_setStage _ stage h hold)
  cases hturn with
  | nothing | patient => exact Nat.le_refl _
  | @refused _ _ s' _ h => exact hset (c := { b with session := s' }) _ h rfl
  | @answered _ _ s' f script r h =>
    exact hset (c := { b with session := (s'.finish f r 0).1, script := script }) _ h rfl
  | @held _ _ s' _ script _ h =>
    exact hset (c := { b with session := s', script := script }) _ h rfl
  | @released f v r h =>
    obtain ⟨u, hu⟩ := h
    exact hset (c := { b with
      session := (b.session.resume f (.result (.ok v)) 0).1
      script := b.script.leave number }) _ hu rfl
  | @cancelled f r h =>
    -- the turn that it may give is made up for by its own end
    obtain ⟨v, hv⟩ := h
    have hend := work_setStage { b with
      session := (b.session.resume f .nothing 0).1
      script := (b.script.withdraw number).1 } (.over r) hv rfl
    exact Nat.le_trans (work_giveTurn?_le _ _) (Nat.le_of_eq hend)

theorem turns_takeTurns (clock : String) : ∀ (left : Nat) {b : Bench}, b.work ≤ left →
    (b.takeTurns clock left).turns = []
  | 0, b, h => by
    have hnone : b.turns.length = 0 := Nat.le_zero.1 (Nat.le_trans (Nat.le_add_right _ _) h)
    exact List.eq_nil_of_length_eq_zero hnone
  | left + 1, b, h => by
    unfold Bench.takeTurns
    split
    · assumption
    · next number rest hturns =>
      have hturn := (turn_takeTurn { b with turns := rest } clock number).work_le
      refine turns_takeTurns clock left (Nat.le_trans hturn ?_)
      unfold work at h ⊢
      rw [hturns, List.length_cons] at h
      dsimp only
      omega

/-- **A run takes all turns there are.** -/
theorem turns_run (b : Bench) (clock : String) : (b.run clock).turns = [] := by
  refine turns_takeTurns clock _ ?_
  unfold work
  exact Nat.add_le_add_left List.countP_le_length _

theorem size_giveTurn? (b : Bench) (next : Option Nat) :
    (b.giveTurn? next).stages.size = b.stages.size := by
  rw [stages_giveTurn?]

theorem size_setStage (b : Bench) (number : Nat) (stage : Stage) :
    (b.setStage number stage).stages.size = b.stages.size := Array.size_setIfInBounds

/-- A turn forgets no test and adds none. -/
theorem Turn.size_eq (hturn : b.Turn number b') : b'.stages.size = b.stages.size := by
  cases hturn with
  | nothing | patient => rfl
  | refused | answered | held | released => exact size_setStage _ _ _
  | cancelled => exact (size_giveTurn? _ _).trans (size_setStage _ _ _)

theorem size_takeTurns (clock : String) : ∀ (left : Nat) (b : Bench),
    (b.takeTurns clock left).stages.size = b.stages.size
  | 0, _ => rfl
  | left + 1, b => by
    unfold Bench.takeTurns
    split
    · rfl
    · next number rest _ =>
      rw [size_takeTurns clock left]
      exact (turn_takeTurn { b with turns := rest } clock number).size_eq

/-! ## §4. Between the turns. -/

theorem Served.ask (h : b.Served none) (node : String) : (b.ask node).1.Served none := by
  suffices hpushed : { b with stages := b.stages.push (.asked node) }.Served
      (some b.stages.size) from hpushed.giveTurn?
  refine ⟨fun i hi => ?_, fun i hi => ?_, h.once⟩
  · unfold CanGo WaitsAt at hi
    simp only [Array.getElem?_push] at hi
    by_cases hi' : i = b.stages.size
    · exact .inr (congrArg some hi'.symm)
    · simp only [if_neg hi'] at hi
      exact .inl (h.mem_turns hi)
  · obtain ⟨g, v, hv⟩ := h.waits i hi
    refine ⟨g, v, ?_⟩
    have hlt := (Array.getElem?_eq_some_iff.1 hv).1
    dsimp only
    rw [Array.getElem?_push, if_neg (by omega), hv]

theorem Served.release (h : b.Served none) : b.release.Served none := by
  suffices hreleased : { b with script := b.script.release.1 }.Served b.script.release.2 from
    hreleased.giveTurn?
  refine ⟨fun i hi => ?_, fun i hi => ?_, ?_⟩
  · rcases hi with hasked | ⟨g, hg, hreleased | hfires⟩
    · exact .inl (h.mem_turns (.inl hasked))
    · refine ((Script.mem_released_release _ i).1 hreleased).imp_left fun hreleased => ?_
      exact h.mem_turns (.inr ⟨g, hg, .inl hreleased⟩)
    · exact .inl (h.mem_turns (.inr ⟨g, hg, .inr hfires⟩))
  · exact h.waits i ((Script.held_release _).mem_iff.1 hi)
  · exact (Script.held_release _).nodup_iff.2 h.once

/-- The running test of a node is found where it waits. -/
theorem Tied.runningTest?_eq (ht : b.Tied) {i : Nat} (hwaits : b.WaitsAt i f) {id : String}
    (hrunning : b.session.gate.running.get? id = some f.permit.number) (hid : id = f.permit.node) :
    b.runningTest? id = some i := by
  obtain ⟨v, hv⟩ := hwaits
  obtain ⟨hlt, hget⟩ := Array.getElem?_eq_some_iff.1 hv
  unfold runningTest?
  rw [hrunning, Option.bind_some, hid]
  cases hfound : b.stages.toList.findIdx? (waitsOn f.permit) with
  | none =>
    have hnot := List.findIdx?_eq_none_iff.1 hfound _ (List.getElem_mem hlt)
    have hget' : b.stages.toList[i] = .waiting f v := hget
    rw [hget'] at hnot
    simp [waitsOn] at hnot
  | some j =>
    obtain ⟨hj, hwaitsOn, -⟩ := List.findIdx?_eq_some_iff_getElem.1 hfound
    cases hstage : b.stages.toList[j] with
    | waiting g u =>
      rw [hstage] at hwaitsOn
      have hpermit : g.permit = f.permit := of_decide_eq_true hwaitsOn
      have hwaits' : b.WaitsAt j g := ⟨u, Array.getElem?_eq_some_iff.2 ⟨hj, hstage⟩⟩
      rw [ht.apart j i g f hwaits' ⟨v, hv⟩ (congrArg Permit.number hpermit)]
    | _ =>
      rw [hstage] at hwaitsOn
      cases hwaitsOn

/-- When the test of a node is ended, it is late if it waits. -/
theorem Served.cancelled (ht : b.Tied) (h : b.Served none) (id : String) {s' : Session}
    (hgate : s'.gate = (b.session.gate.cancel id).1) :
    { b with session := s' }.Served (b.runningTest? id) := by
  refine ⟨fun i hi => ?_, h.waits, h.once⟩
  rcases hi with hasked | ⟨g, hg, hreleased | hfires⟩
  · exact .inl (h.mem_turns (.inl hasked))
  · exact .inl (h.mem_turns (.inr ⟨g, hg, .inl hreleased⟩))
  · have hg : b.WaitsAt i g := hg
    have hfires : g.permit.number ∈ s'.gate.fired := hfires
    rw [hgate, ht.booked.mem_fired_cancel (ht.waits i g hg)] at hfires
    rcases hfires with hfires | ⟨hrunning, hid⟩
    · exact .inl (h.mem_turns (.inr ⟨g, hg, .inr hfires⟩))
    · exact .inr (ht.runningTest?_eq hg hrunning hid)

/-! ## §5. Whatever is done. -/

/-- What may be done with a bench. -/
inductive Doing where
  | ask (node : String)
  | release
  | cancel (node : String)
  | addNode (id : String) (name : Option String) (config : NodeConfig)
  | renameNode (id name : String)
  | removeNode (id : String)
  | addEdge (e : Edge)
  /-- Other credentials are kept. -/
  | keep (source : Option (Table Value))
  /-- The tests run, at a reading of the clock. -/
  | run (clock : String)

/-- A test is asked for. -/
def Doing.asks : Doing → Bool
  | .ask _ => true
  | _ => false

/-- A bench on which a thing was done; what fails leaves it as it was. -/
def perform (b : Bench) : Doing → Bench
  | .ask node => (b.ask node).1
  | .release => b.release
  | .cancel node => (b.cancel node).1
  | .addNode id name config =>
      { b with session := (b.session.perform (.addNode id name config)).1 }
  | .renameNode id name => { b with session := (b.session.perform (.renameNode id name)).1 }
  | .removeNode id => (b.removeNode id).toOption.getD b
  | .addEdge e => { b with session := (b.session.perform (.addEdge e)).1 }
  | .keep source => { b with source := source }
  | .run clock => b.run clock

/-- A bench on which things were done in turn. -/
def performAll (b : Bench) (doings : List Doing) : Bench := doings.foldl perform b

/-- **Whatever is done with a bench, its session goes through acts, and every
test that can go on has a turn.** -/
theorem perform_keeps (d : Doing) (ht : b.Tied) (h : b.Served none) :
    b.Follows (b.perform d) ∧ (b.perform d).Served none := by
  have hedit : ∀ a : Act, (∀ number x t, a ≠ .resume number x t) → (∀ id, a ≠ .cancel id) →
      (∀ id, a ≠ .removeNode id) →
      b.Follows { b with session := (b.session.perform a).1 } ∧
        { b with session := (b.session.perform a).1 }.Served none := by
    intro a hwakes hcancel hremove
    exact ⟨ht.act hwakes, h.session ((Session.step_perform b.session a).fired_eq hcancel hremove)⟩
  cases d with
  | ask node => exact ⟨ht.ask node, h.ask node⟩
  | release => exact ⟨ht.release, h.release⟩
  | cancel node => exact ⟨ht.cancel node, (h.cancelled ht node rfl).giveTurn?⟩
  | addNode id name config => exact hedit _ nofun nofun nofun
  | renameNode id name => exact hedit _ nofun nofun nofun
  | addEdge e => exact hedit _ nofun nofun nofun
  | keep source => exact ⟨ht.same rfl rfl, h.turn, h.waits, h.once⟩
  | run clock => exact ⟨follows_run ht clock, h.takeTurns clock _ ht⟩
  | removeNode id =>
    have hperform : b.perform (.removeNode id) = (b.removeNode id).toOption.getD b := rfl
    rw [hperform]
    cases hremove : b.removeNode id with
    | error e => exact ⟨ht.refl, h⟩
    | ok b' =>
      refine ⟨ht.removeNode hremove, ?_⟩
      unfold Bench.removeNode at hremove
      cases hsession : b.session.removeNode id with
      | error e =>
        rw [hsession] at hremove
        cases hremove
      | ok s' =>
        rw [hsession] at hremove
        cases hremove
        exact (h.cancelled ht id (Session.gate_of_removeNode hsession)).giveTurn?

theorem performAll_keeps : ∀ (doings : List Doing) {b : Bench}, b.Tied → b.Served none →
    b.Follows (b.performAll doings) ∧ (b.performAll doings).Served none
  | [], _, ht, h => ⟨ht.refl, h⟩
  | d :: rest, _, ht, h => by
    obtain ⟨hfirst, hserved⟩ := perform_keeps d ht h
    obtain ⟨hrest, hserved'⟩ := performAll_keeps rest hfirst.1 hserved
    exact ⟨hfirst.trans hrest, hserved'⟩

/-- There are as many tests as were asked for. -/
theorem size_performAll : ∀ (doings : List Doing) (b : Bench),
    (b.performAll doings).stages.size = b.stages.size + doings.countP Doing.asks
  | [], _ => rfl
  | d :: rest, b => by
    have hstep : (b.perform d).stages.size = b.stages.size + if d.asks then 1 else 0 := by
      cases d with
      | ask node => exact (size_giveTurn? _ (some b.stages.size)).trans (Array.size_push _)
      | release => exact size_giveTurn? _ _
      | cancel node => exact size_giveTurn? _ _
      | run clock => exact size_takeTurns clock _ b
      | addNode | renameNode | addEdge | keep => rfl
      | removeNode id =>
        show ((b.removeNode id).toOption.getD b).stages.size = _
        unfold Bench.removeNode
        cases b.session.removeNode id with
        | error e => rfl
        | ok s' => exact size_giveTurn? _ _
    show ((b.perform d).performAll rest).stages.size = _
    rw [size_performAll rest, hstep, List.countP_cons]
    omega

theorem result?_eq_some_iff {i : Nat} {r : Except Error Value} :
    b.result? i = some r ↔ b.stages[i]? = some (.over r) := by
  unfold result?
  split
  · next heq => simp [heq]
  · next hnot => exact ⟨nofun, fun h => absurd h (hnot r)⟩

/-- **A run goes on until no test can.**  Whatever is done with a new bench,
when its tests have run

* the session went through acts, and each test that is over has a result that
  one of them gave back;
* no turn is left, and there are as many tests as were asked for;
* a test is over, or it is under way and waits, was not released, and its
  signal is silent. -/
theorem script_runs_until_quiet (w : Workflow) (responses : List Response)
    (source : Option (Table Value)) (doings : List Doing) (clock : String) :
    let new : Bench := { session := .ofWorkflow w, script := { responses }, source := source }
    let b := (new.performAll doings).run clock
    (∃ acts, b.session = (Session.ofWorkflow w).run acts ∧
      ∀ i r, b.result? i = some r → ∃ m ∈ (Session.ofWorkflow w).moments acts, m.GivesBack r) ∧
    b.turns = [] ∧ b.stages.size = doings.countP Doing.asks ∧
    ∀ i < b.stages.size, (∃ r, b.result? i = some r) ∨
      ∃ f, b.WaitsAt i f ∧ f ∈ b.session.flights ∧ b.script.isReleased i = false ∧
        b.session.gate.isCancelled f.permit = false := by
  intro new b
  have hempty : new.Served none := by
    refine ⟨?_, nofun, List.nodup_nil⟩
    rintro i (⟨node, hnode⟩ | ⟨g, ⟨v, hv⟩, -⟩)
    · simp [new] at hnode
    · simp [new] at hv
  obtain ⟨hdone, hserved⟩ := performAll_keeps doings (tied_ofWorkflow w _ source) hempty
  obtain ⟨hfollows, hquiet⟩ := perform_keeps (.run clock) hdone.1 hserved
  obtain ⟨htied, acts, hacts, hover⟩ := hdone.trans hfollows
  have hturns : b.turns = [] := turns_run _ clock
  have hsize : b.stages.size = doings.countP Doing.asks := by
    rw [show b.stages.size = (new.performAll doings).stages.size from size_takeTurns clock _ _,
      size_performAll]
    exact Nat.zero_add _
  refine ⟨⟨acts, hacts, fun i r hi => ?_⟩, hturns, hsize, fun i hi => ?_⟩
  · refine (hover i r (result?_eq_some_iff.1 hi)).resolve_left fun hnew => ?_
    simp at hnew
  · have hstuck : ¬ b.CanGo i := by
      intro hgoes
      have hmem := hquiet.mem_turns hgoes
      change i ∈ b.turns at hmem
      rw [hturns] at hmem
      cases hmem
    have hstage : b.stages[i]? = some b.stages[i] := Array.getElem?_eq_getElem hi
    match hcase : b.stages[i] with
    | .over r =>
      rw [hcase] at hstage
      exact .inl ⟨r, result?_eq_some_iff.2 hstage⟩
    | .asked node =>
      rw [hcase] at hstage
      exact absurd (.inl ⟨node, hstage⟩) hstuck
    | .waiting f v =>
      rw [hcase] at hstage
      have hwaits : b.WaitsAt i f := ⟨v, hstage⟩
      refine .inr ⟨f, hwaits, htied.waits i f hwaits, ?_, ?_⟩
      · refine Bool.eq_false_iff.2 fun hreleased => hstuck (.inr ⟨f, hwaits, .inl ?_⟩)
        simpa [Script.isReleased] using hreleased
      · refine Bool.eq_false_iff.2 fun hfires => hstuck (.inr ⟨f, hwaits, .inr ?_⟩)
        exact (b.session.gate.isCancelled_iff f.permit).1 hfires

/-- The release of a test that is cancelled before it goes on is passed to the
next. -/
example :
    let w : Workflow := { nodes := [⟨"a", "A", .manual⟩, ⟨"b", "B", .manual⟩] }
    let script : Script := { responses := [.held .null, .held (.bool true)] }
    let b := performAll { session := .ofWorkflow w, script := script }
      [.ask "a", .ask "b", .run "", .release, .cancel "a", .run ""]
    b.result? 0 = some (.error (.testCancelled "a")) ∧ b.result? 1 = some (.ok (.bool true)) :=
  ⟨rfl, rfl⟩

end Bench

end FlowBench
