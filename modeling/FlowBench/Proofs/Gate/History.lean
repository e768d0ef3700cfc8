/-
  FlowBench.Proofs.Gate.History
  ─────────────────────────────
  **The gate knows which permit of a node is current.**

  A gate is called any number of times: permits are asked for, nodes are
  cancelled, and whoever holds a permit commits with it or drops it.  Which
  permits are `Current` is told by the calls alone: those that were given out
  and since then neither dropped nor cancelled.  `answers_by_current_permits`
  says that every answer of the gate is the one that the current permits ask
  for, although the gate keeps an entry and a number per node only.
-/
import Mathlib.Data.List.Induction
import FlowBench.Proofs.Gate.Tally

namespace FlowBench

universe u

/-! ## §1. Calls. -/

/-- A call on a gate; a commit changes data of some type if it runs. -/
inductive Gate.Call (σ : Type u) where
  | acquire (node : String)
  | cancel (node : String)
  | commit (p : Permit) (closure : σ → σ)
  | drop (p : Permit)

/-- What a call on a gate gives back. -/
inductive Gate.Reply where
  | acquired (r : Except Error Permit)
  | cancelled (found : Bool)
  | committed (ran : Bool)
  | dropped
  /-- Nobody holds the permit. -/
  | unheld

/-- A gate, the permits that it gave out and did not get back, and the data
that commits change. -/
structure Custody (σ : Type u) where
  gate : Gate := {}
  held : List Permit := []
  data : σ

namespace Custody

variable {σ : Type u} {d : σ} {calls : List (Gate.Call σ)} {w : Custody σ} {p : Permit}
  {node : String}

/-- Performs a call.  Only a permit that is held can be committed with or
dropped. -/
def perform (w : Custody σ) : Gate.Call σ → Custody σ × Gate.Reply
  | .acquire node =>
      match w.gate.acquire node with
      | .ok (gate, p) => ({ w with gate := gate, held := w.held ++ [p] }, .acquired (.ok p))
      | .error e => (w, .acquired (.error e))
  | .cancel node => ({ w with gate := (w.gate.cancel node).1 }, .cancelled (w.gate.cancel node).2)
  | .commit p closure =>
      if p ∉ w.held then (w, .unheld)
      else if w.gate.mayCommit p then ({ w with data := closure w.data }, .committed true)
      else (w, .committed false)
  | .drop p =>
      if p ∉ w.held then (w, .unheld)
      else
        ({ w with gate := w.gate.release p, held := w.held.filter fun q => q ≠ p }, .dropped)

/-- What calls lead to, from a new gate. -/
def after (d : σ) (calls : List (Gate.Call σ)) : Custody σ :=
  calls.foldl (fun w c => (w.perform c).1) { data := d }

theorem after_concat (d : σ) (calls : List (Gate.Call σ)) (c : Gate.Call σ) :
    after d (calls ++ [c]) = ((after d calls).perform c).1 := by
  unfold after
  rw [List.foldl_append]
  rfl

theorem perform_acquire_of_running (h : w.gate.isRunning node = true) :
    w.perform (.acquire node) = (w, .acquired (.error (.testInProgress node))) := by
  simp only [perform, Gate.acquire, h, if_true]

theorem perform_acquire_of_free (h : w.gate.isRunning node = false) :
    w.perform (.acquire node) =
      ({ w with gate := w.gate.enter node, held := w.held ++ [⟨node, w.gate.next⟩] },
        .acquired (.ok ⟨node, w.gate.next⟩)) := by
  simp [perform, Gate.acquire, h]

theorem perform_commit_of_held (h : p ∈ w.held) (closure : σ → σ) :
    w.perform (.commit p closure) =
      if w.gate.mayCommit p then ({ w with data := closure w.data }, .committed true)
      else (w, .committed false) := by
  simp only [perform, h, not_true_eq_false, if_false]

theorem perform_commit_of_unheld (h : p ∉ w.held) (closure : σ → σ) :
    w.perform (.commit p closure) = (w, .unheld) := by
  simp only [perform, h, not_false_eq_true, if_true]

theorem perform_drop_of_held (h : p ∈ w.held) :
    w.perform (.drop p) =
      ({ w with gate := w.gate.release p, held := w.held.filter fun q => q ≠ p }, .dropped) := by
  simp only [perform, h, not_true_eq_false, if_false]

theorem perform_drop_of_unheld (h : p ∉ w.held) : w.perform (.drop p) = (w, .unheld) := by
  simp only [perform, h, not_false_eq_true, if_true]

/-! ## §2. What the calls say of a permit. -/

/-- A permit is what is given out for its node after some calls. -/
def Admits (d : σ) (calls : List (Gate.Call σ)) (p : Permit) : Prop :=
  ((after d calls).perform (.acquire p.node)).2 = .acquired (.ok p)

/-- A permit was given out, and every call since is of some kind. -/
def Since (d : σ) (calls : List (Gate.Call σ)) (p : Permit) (kind : Gate.Call σ → Prop) : Prop :=
  ∃ before since, calls = before ++ .acquire p.node :: since ∧ Admits d before p ∧
    ∀ c ∈ since, kind c

/-- A permit was given out. -/
def Issued (d : σ) (calls : List (Gate.Call σ)) (p : Permit) : Prop :=
  Since d calls p fun _ => True

/-- A permit was given out and since then not dropped. -/
def Outstanding (d : σ) (calls : List (Gate.Call σ)) (p : Permit) : Prop :=
  Since d calls p fun c => c ≠ .drop p

/-- A permit was given out and since then neither dropped nor cancelled. -/
def Current (d : σ) (calls : List (Gate.Call σ)) (p : Permit) : Prop :=
  Since d calls p fun c => c ≠ .drop p ∧ c ≠ .cancel p.node

theorem since_nil (d : σ) (p : Permit) (kind : Gate.Call σ → Prop) : ¬ Since d [] p kind := by
  rintro ⟨before, since, heq, -⟩
  simp at heq

/-- One more call gives the permit out, or is of the kind. -/
theorem since_concat_iff {c : Gate.Call σ} {kind : Gate.Call σ → Prop} :
    Since d (calls ++ [c]) p kind ↔
      (c = .acquire p.node ∧ Admits d calls p) ∨ (Since d calls p kind ∧ kind c) := by
  constructor
  · rintro ⟨before, since, heq, hadmits, hkind⟩
    rcases List.eq_nil_or_concat since with rfl | ⟨init, last, rfl⟩
    · -- the last call is the one that gave it out
      obtain ⟨rfl, hc⟩ := List.append_inj' heq rfl
      injection hc with hc
      exact .inl ⟨hc, hadmits⟩
    · -- the last call came since
      rw [List.concat_eq_append, ← List.cons_append, ← List.append_assoc] at heq
      obtain ⟨rfl, hc⟩ := List.append_inj' heq rfl
      injection hc with hc
      subst hc
      refine .inr ⟨⟨before, init, rfl, hadmits, fun x hx => hkind x ?_⟩, hkind c ?_⟩
      · rw [List.concat_eq_append]
        exact List.mem_append_left _ hx
      · rw [List.concat_eq_append]
        exact List.mem_append_right _ List.mem_cons_self
  · rintro (⟨rfl, hadmits⟩ | ⟨⟨before, since, rfl, hadmits, hkind⟩, hc⟩)
    · exact ⟨calls, [], rfl, hadmits, by simp⟩
    · refine ⟨before, since ++ [c], by simp, hadmits, fun x hx => ?_⟩
      rcases List.mem_append.1 hx with hx | hx
      · exact hkind x hx
      · rw [List.mem_singleton.1 hx]
        exact hc

/-- A call that gives nothing out leaves it to its kind. -/
theorem since_concat_of_not_acquire {c : Gate.Call σ} {kind : Gate.Call σ → Prop}
    (hc : ∀ node, c ≠ .acquire node) :
    Since d (calls ++ [c]) p kind ↔ Since d calls p kind ∧ kind c := by
  rw [since_concat_iff]
  exact or_iff_right fun h => hc _ h.1

/-- A permit is given out for a node without an entry, under the next
number. -/
theorem admits_iff :
    Admits d calls p ↔
      (after d calls).gate.isRunning p.node = false ∧ p.number = (after d calls).gate.next := by
  unfold Admits
  cases hrun : (after d calls).gate.isRunning p.node with
  | true =>
    rw [perform_acquire_of_running hrun]
    simp
  | false =>
    rw [perform_acquire_of_free hrun]
    obtain ⟨node, number⟩ := p
    simp [eq_comm]

/-! ## §3. What the gate keeps of it. -/

/-- The permits that are out and the signals that have fired are what the
calls say, and no two permits were given out under one number. -/
structure Faithful (d : σ) (calls : List (Gate.Call σ)) (w : Custody σ) : Prop where
  tally : Tally w.gate w.held
  held : ∀ p, p ∈ w.held ↔ Outstanding d calls p
  current : ∀ p, Current d calls p ↔ p ∈ w.held ∧ p.number ∉ w.gate.fired
  below : ∀ p, Issued d calls p → p.number < w.gate.next
  apart : ∀ p q, Issued d calls p → Issued d calls q → p.number = q.number → p = q

namespace Faithful

theorem start (d : σ) : Faithful d [] { data := d } where
  tally := Tally.empty
  held p := by simp [Outstanding, since_nil]
  current p := by simp [Current, since_nil]
  below p hp := absurd hp (since_nil d p _)
  apart p q hp := absurd hp (since_nil d p _)

variable (h : Faithful d calls (after d calls))

include h

/-- A permit is refused: nothing was given out. -/
theorem refuse (hrun : (after d calls).gate.isRunning node = true) :
    Faithful d (calls ++ [.acquire node]) (after d calls) := by
  have hsame : ∀ (p : Permit) (kind : Gate.Call σ → Prop), kind (.acquire node) →
      (Since d (calls ++ [.acquire node]) p kind ↔ Since d calls p kind) := by
    intro p kind hkind
    rw [since_concat_iff, or_iff_right, and_iff_left hkind]
    rintro ⟨hacquire, hadmits⟩
    injection hacquire with hnode
    rw [admits_iff, ← hnode, hrun] at hadmits
    cases hadmits.1
  refine ⟨h.tally, fun p => ?_, fun p => ?_, fun p hp => ?_, fun p q hp hq => ?_⟩
  · rw [h.held p]
    exact (hsame p _ (by simp)).symm
  · rw [← h.current p]
    exact hsame p _ (by simp)
  · exact h.below p ((hsame p _ trivial).1 hp)
  · exact h.apart p q ((hsame p _ trivial).1 hp) ((hsame q _ trivial).1 hq)

/-- A permit is given out: it is out, and its signal is silent. -/
theorem grant (hrun : (after d calls).gate.isRunning node = false) :
    Faithful d (calls ++ [.acquire node])
      { after d calls with
        gate := (after d calls).gate.enter node
        held := (after d calls).held ++ [⟨node, (after d calls).gate.next⟩] } := by
  have hnew : ∀ p : Permit, (Gate.Call.acquire (σ := σ) node = .acquire p.node ∧ Admits d calls p) ↔
      p = ⟨node, (after d calls).gate.next⟩ := by
    intro p
    obtain ⟨node', number⟩ := p
    rw [admits_iff]
    simp only [Gate.Call.acquire.injEq, Permit.mk.injEq]
    constructor
    · rintro ⟨rfl, -, hnumber⟩
      exact ⟨rfl, hnumber⟩
    · rintro ⟨rfl, hnumber⟩
      exact ⟨rfl, hrun, hnumber⟩
  have hmore : ∀ (p : Permit) (kind : Gate.Call σ → Prop), kind (.acquire node) →
      (Since d (calls ++ [.acquire node]) p kind ↔
        p = ⟨node, (after d calls).gate.next⟩ ∨ Since d calls p kind) := by
    intro p kind hkind
    rw [since_concat_iff, hnew, and_iff_left hkind]
  have hfresh : (after d calls).gate.next ∉ (after d calls).gate.fired :=
    fun hfired => absurd (h.tally.fired _ hfired) (Nat.lt_irrefl _)
  refine ⟨h.tally.enter ((Gate.isRunning_eq_false_iff _ _).1 hrun), fun p => ?_, fun p => ?_,
    fun p hp => ?_, fun p q hp hq hnumber => ?_⟩
  · rw [Outstanding, hmore p _ (by simp), List.mem_append, List.mem_singleton, h.held p, or_comm]
    rfl
  · rw [Current, hmore p _ (by simp), List.mem_append, List.mem_singleton, Gate.fired_enter,
      or_and_right, or_comm, ← h.current p]
    refine or_congr Iff.rfl ⟨fun hp => ⟨hp, ?_⟩, fun hp => hp.1⟩
    rw [hp]
    exact hfresh
  · rw [Gate.next_enter]
    rcases (hmore p _ trivial).1 hp with rfl | hp
    · exact Nat.lt_succ_self _
    · exact Nat.lt_succ_of_lt (h.below p hp)
  · -- an older permit has a smaller number than the new one
    rcases (hmore p _ trivial).1 hp with rfl | hp <;> rcases (hmore q _ trivial).1 hq with rfl | hq
    · rfl
    · exact absurd (h.below q hq) (by rw [← hnumber]; exact Nat.lt_irrefl _)
    · exact absurd (h.below p hp) (by rw [hnumber]; exact Nat.lt_irrefl _)
    · exact h.apart p q hp hq hnumber

/-- A call that gives nothing out leaves alone what was given out. -/
theorem of_not_acquire {c : Gate.Call σ} (hc : ∀ node, c ≠ .acquire node) {w : Custody σ}
    (htally : Tally w.gate w.held) (hnext : w.gate.next = (after d calls).gate.next)
    (hheld : ∀ p, p ∈ w.held ↔ p ∈ (after d calls).held ∧ c ≠ .drop p)
    (hcurrent : ∀ p ∈ w.held, p.number ∉ w.gate.fired ↔
      p.number ∉ (after d calls).gate.fired ∧ c ≠ .cancel p.node) :
    Faithful d (calls ++ [c]) w where
  tally := htally
  held p := by
    rw [Outstanding, since_concat_of_not_acquire hc, hheld p, h.held p]
    rfl
  current p := by
    rw [Current, since_concat_of_not_acquire hc]
    change Current d calls p ∧ _ ↔ _
    rw [h.current p]
    constructor
    · rintro ⟨⟨hp, hsilent⟩, hdrop, hcancel⟩
      have hw := (hheld p).2 ⟨hp, hdrop⟩
      exact ⟨hw, (hcurrent p hw).2 ⟨hsilent, hcancel⟩⟩
    · rintro ⟨hw, hsilent⟩
      obtain ⟨hp, hdrop⟩ := (hheld p).1 hw
      obtain ⟨hsilent, hcancel⟩ := (hcurrent p hw).1 hsilent
      exact ⟨⟨hp, hsilent⟩, hdrop, hcancel⟩
  below p hp := by
    rw [Issued, since_concat_of_not_acquire hc] at hp
    rw [hnext]
    exact h.below p hp.1
  apart p q hp hq := by
    rw [Issued, since_concat_of_not_acquire hc] at hp hq
    exact h.apart p q hp.1 hq.1

/-- A node is cancelled: of the permits that are out the one with its entry is
current no more. -/
theorem cancel (node : String) :
    Faithful d (calls ++ [.cancel node])
      { after d calls with gate := ((after d calls).gate.cancel node).1 } := by
  refine h.of_not_acquire (by simp) (h.tally.cancel node) (Gate.next_cancel _ _) (by simp) ?_
  intro p hp
  have hent : (after d calls).gate.running.get? node = some p.number ↔
      p.number ∉ (after d calls).gate.fired ∧ p.node = node := by
    constructor
    · intro hrun
      obtain ⟨hmem, hsilent⟩ := h.tally.get?_running_iff.1 hrun
      rw [h.tally.unique hp hmem rfl]
      exact ⟨hsilent, rfl⟩
    · rintro ⟨hsilent, rfl⟩
      exact h.tally.silent p hp hsilent
  rw [Gate.mem_fired_cancel, hent]
  simp only [ne_eq, Gate.Call.cancel.injEq, eq_comm (a := node)]
  tauto

/-- A permit is committed with, or a permit that nobody holds is dropped. -/
theorem idle {c : Gate.Call σ} (hc : ∀ node, c ≠ .acquire node ∧ c ≠ .cancel node)
    (hdrop : ∀ p ∈ (after d calls).held, c ≠ .drop p) (x : σ) :
    Faithful d (calls ++ [c]) { after d calls with data := x } :=
  h.of_not_acquire (fun node => (hc node).1) h.tally rfl
    (fun p => (and_iff_left_of_imp (hdrop p)).symm)
    (fun p _ => (and_iff_left (hc p.node).2).symm)

/-- A permit is dropped. -/
theorem drop {p : Permit} (hp : p ∈ (after d calls).held) :
    Faithful d (calls ++ [.drop p])
      { after d calls with
        gate := (after d calls).gate.release p
        held := (after d calls).held.filter fun q => q ≠ p } := by
  refine h.of_not_acquire (by simp) (h.tally.release hp List.filter_sublist (by simp))
    (Gate.next_release _ _) (fun q => ?_) (by simp)
  rw [List.mem_filter, decide_eq_true_eq, ne_eq, ne_eq, Gate.Call.drop.injEq, eq_comm (a := p)]

end Faithful

/-- **What the gate keeps is what the calls say.** -/
theorem faithful_after (d : σ) (calls : List (Gate.Call σ)) : Faithful d calls (after d calls) := by
  -- by the last call, since a permit is judged by the calls after its own
  induction calls using List.reverseRecOn with
  | nil => exact Faithful.start d
  | append_singleton calls c ih =>
    rw [after_concat]
    cases c with
    | acquire node =>
      cases hrun : (after d calls).gate.isRunning node with
      | true =>
        rw [perform_acquire_of_running hrun]
        exact ih.refuse hrun
      | false =>
        rw [perform_acquire_of_free hrun]
        exact ih.grant hrun
    | cancel node => exact ih.cancel node
    | commit p closure =>
      -- whether it runs or not, gate and permits stay
      have hidle := ih.idle (c := .commit p closure) (by simp) (by simp)
      by_cases hp : p ∈ (after d calls).held
      · rw [perform_commit_of_held hp]
        split <;> exact hidle _
      · rw [perform_commit_of_unheld hp]
        exact hidle _
    | drop p =>
      by_cases hp : p ∈ (after d calls).held
      · rw [perform_drop_of_held hp]
        exact ih.drop hp
      · rw [perform_drop_of_unheld hp]
        refine ih.idle (c := .drop p) (by simp) ?_ _
        rintro q hq heq
        injection heq with heq
        exact hp (heq ▸ hq)

/-! ## §4. The answers. -/

theorem Since.mono {kind kind' : Gate.Call σ → Prop} (h : Since d calls p kind)
    (hkind : ∀ c, kind c → kind' c) : Since d calls p kind' := by
  obtain ⟨before, since, heq, hadmits, hall⟩ := h
  exact ⟨before, since, heq, hadmits, fun c hc => hkind c (hall c hc)⟩

theorem Current.issued (h : Current d calls p) : Issued d calls p := h.mono fun _ _ => trivial

/-- A node has a current permit. -/
def Busy (d : σ) (calls : List (Gate.Call σ)) (node : String) : Prop :=
  ∃ p, Current d calls p ∧ p.node = node

theorem isRunning_iff_busy : (after d calls).gate.isRunning node = true ↔ Busy d calls node := by
  have h := faithful_after d calls
  rw [h.tally.isRunning_iff]
  refine exists_congr fun p => ?_
  rw [h.current p]
  tauto

theorem isRunning_eq_false_of_not_busy (hfree : ¬ Busy d calls node) :
    (after d calls).gate.isRunning node = false := by
  rw [← Bool.not_eq_true, isRunning_iff_busy]
  exact hfree

/-- An entry is that of the current permit. -/
theorem get?_running_iff_current {k : Nat} :
    (after d calls).gate.running.get? node = some k ↔ Current d calls ⟨node, k⟩ := by
  have h := faithful_after d calls
  rw [h.tally.get?_running_iff, h.current]

/-- Cancelling a node fires the signal of its current permit and of no other
that was ever given out. -/
theorem isCancelled_cancel_iff (hp : Issued d calls p) :
    ((after d calls).gate.cancel node).1.isCancelled p = true ↔
      (after d calls).gate.isCancelled p = true ∨ (Current d calls p ∧ p.node = node) := by
  rw [Gate.isCancelled_iff, Gate.isCancelled_iff, Gate.mem_fired_cancel, get?_running_iff_current]
  refine or_congr_right ⟨fun hcurrent => ?_, ?_⟩
  · -- the numbers of any two permits differ
    rw [(faithful_after d calls).apart p _ hp hcurrent.issued rfl]
    exact ⟨hcurrent, rfl⟩
  · rintro ⟨hcurrent, rfl⟩
    exact hcurrent

theorem mayCommit_iff_current (hp : Outstanding d calls p) :
    (after d calls).gate.mayCommit p = true ↔ Current d calls p := by
  have h := faithful_after d calls
  have hheld := (h.held p).2 hp
  rw [h.tally.mayCommit_iff hheld, h.current p, and_iff_right hheld]

/-- **Every answer of the gate is the one that the current permits ask for.**
After any calls:

* a node has one current permit at most;
* a permit is given out for a node without one, and is current then; for a
  node with one it is refused, and nothing changes;
* the running nodes, which are listed in order, are those with one;
* cancelling a node finds its current permit and fires the signal of that
  permit, which was silent, and of no other; without one nothing changes;
* to commit with a permit that is held runs the closure if it is current,
  and else does nothing;
* to drop a permit that was cancelled leaves the gate as it is, and whatever
  is current stays so. -/
theorem answers_by_current_permits (d : σ) (calls : List (Gate.Call σ)) :
    let w := after d calls
    (∀ p q, Current d calls p → Current d calls q → p.node = q.node → p = q) ∧
    (∀ node, ¬ Busy d calls node → ∃ p, p.node = node ∧
      (w.perform (.acquire node)).2 = .acquired (.ok p) ∧
      Current d (calls ++ [.acquire node]) p) ∧
    (∀ node, Busy d calls node →
      w.perform (.acquire node) = (w, .acquired (.error (.testInProgress node)))) ∧
    (∀ node, w.gate.isRunning node = true ↔ Busy d calls node) ∧
    (∀ node, node ∈ w.gate.runningNodes ↔ Busy d calls node) ∧
    w.gate.runningNodes.Pairwise (· < ·) ∧
    (∀ node, (w.perform (.cancel node)).2 = .cancelled true ↔ Busy d calls node) ∧
    (∀ node, ¬ Busy d calls node → w.perform (.cancel node) = (w, .cancelled false)) ∧
    (∀ node p, Issued d calls p → ((w.perform (.cancel node)).1.gate.isCancelled p = true ↔
      w.gate.isCancelled p = true ∨ (Current d calls p ∧ p.node = node))) ∧
    (∀ p, Current d calls p → w.gate.isCancelled p = false) ∧
    (∀ p closure, Outstanding d calls p →
      (Current d calls p →
        w.perform (.commit p closure) = ({ w with data := closure w.data }, .committed true)) ∧
      (¬ Current d calls p → w.perform (.commit p closure) = (w, .committed false))) ∧
    (∀ p, Outstanding d calls p → ¬ Current d calls p →
      (w.perform (.drop p)).1.gate = w.gate ∧
      ∀ q, Current d calls q → Current d (calls ++ [.drop p]) q) := by
  intro w
  have h : Faithful d calls w := faithful_after d calls
  refine ⟨?_, ?_, ?_, fun _ => isRunning_iff_busy, ?_, w.gate.running.increasing, ?_, ?_, ?_, ?_,
    ?_, ?_⟩
  · intro p q hp hq hnode
    obtain ⟨hp, hps⟩ := (h.current p).1 hp
    obtain ⟨hq, hqs⟩ := (h.current q).1 hq
    exact h.tally.eq_of_silent hp hq hnode hps hqs
  · intro node hfree
    have hrun := isRunning_eq_false_of_not_busy hfree
    refine ⟨⟨node, w.gate.next⟩, rfl, by rw [perform_acquire_of_free hrun], ?_⟩
    exact since_concat_iff.2 (.inl ⟨rfl, admits_iff.2 ⟨hrun, rfl⟩⟩)
  · intro node hbusy
    exact perform_acquire_of_running (isRunning_iff_busy.2 hbusy)
  · intro node
    rw [← isRunning_iff_busy]
    exact Table.mem_keys_iff w.gate.running node
  · intro node
    rw [← isRunning_iff_busy]
    show Gate.Reply.cancelled (w.gate.cancel node).2 = _ ↔ w.gate.isRunning node = true
    rw [Gate.Reply.cancelled.injEq, Gate.found_cancel]
  · intro node hfree
    show ({ w with gate := (w.gate.cancel node).1 },
      Gate.Reply.cancelled (w.gate.cancel node).2) = _
    rw [Gate.cancel_of_free (isRunning_eq_false_of_not_busy hfree)]
  · intro node p hp
    exact isCancelled_cancel_iff hp
  · intro p hp
    rw [Gate.isCancelled_eq_false_iff]
    exact ((h.current p).1 hp).2
  · intro p closure hp
    rw [perform_commit_of_held ((h.held p).2 hp), ← mayCommit_iff_current hp]
    exact ⟨fun hcommit => if_pos hcommit, fun hcommit => if_neg hcommit⟩
  · intro p hp hstale
    have hheld := (h.held p).2 hp
    constructor
    · rw [perform_drop_of_held hheld]
      refine h.tally.release_of_fired ?_
      by_contra hsilent
      exact hstale ((h.current p).2 ⟨hheld, hsilent⟩)
    · -- the permit that is dropped is not the one that is current
      intro q hq
      refine since_concat_iff.2 (.inr ⟨hq, fun heq => ?_, by simp⟩)
      injection heq with heq
      exact hstale (heq ▸ hq)

/-- A permit of a node is cancelled, and a newer one is given out: to drop the
older one does not disturb the newer one, whose commit runs. -/
theorem newer_permit_outlives_older :
    let calls : List (Gate.Call Nat) := [.acquire "n", .cancel "n", .acquire "n"]
    let older : Permit := ⟨"n", 0⟩
    let newer : Permit := ⟨"n", 1⟩
    Outstanding 0 calls older ∧ ¬ Current 0 calls older ∧ Current 0 calls newer ∧
      ((after 0 calls).perform (.drop older)).1.gate = (after 0 calls).gate ∧
      ((after 0 (calls ++ [.drop older])).perform (.commit newer Nat.succ)).2 = .committed true := by
  intro calls older newer
  have hnewer : Current 0 calls newer := ⟨[.acquire "n", .cancel "n"], [], rfl, rfl, by simp⟩
  have holder : Outstanding 0 calls older := by
    refine ⟨[], [.cancel "n", .acquire "n"], rfl, rfl, ?_⟩
    simp
  obtain ⟨hone, -, -, -, -, -, -, -, -, -, -, hdrop⟩ := answers_by_current_permits 0 calls
  have hstale : ¬ Current 0 calls older := by
    intro hcurrent
    exact absurd (hone older newer hcurrent hnewer rfl) (by decide)
  obtain ⟨hgate, hkept⟩ := hdrop older holder hstale
  -- the newer permit is still current once the older one has gone
  have hlater : Current 0 (calls ++ [.drop older]) newer := hkept newer hnewer
  obtain ⟨-, -, -, -, -, -, -, -, -, -, hcommit, -⟩ :=
    answers_by_current_permits 0 (calls ++ [.drop older])
  have hran := (hcommit newer Nat.succ (hlater.mono fun c hc => hc.1)).1 hlater
  exact ⟨holder, hstale, hnewer, hgate, by rw [hran]⟩

end Custody

end FlowBench
