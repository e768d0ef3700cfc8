/-
  FlowBench.Proofs.Gate
  ─────────────────────
  **What each operation of the gate does.**

  One lemma per operation and part of the gate.  Callers rewrite by them and
  do not look into the operations.
-/
import FlowBench.Gate
import FlowBench.Proofs.Table

namespace FlowBench.Gate

/-! ## §1. Permits. -/

theorem isCancelled_iff (g : Gate) (p : Permit) : g.isCancelled p = true ↔ p.number ∈ g.fired := by
  unfold isCancelled
  exact List.contains_iff_mem

theorem isCancelled_eq_false_iff (g : Gate) (p : Permit) :
    g.isCancelled p = false ↔ p.number ∉ g.fired := by
  rw [← Bool.not_eq_true, isCancelled_iff]

/-- A permit may commit while its entry is there and its signal is silent. -/
theorem mayCommit_iff (g : Gate) (p : Permit) :
    g.mayCommit p = true ↔ g.running.get? p.node = some p.number ∧ p.number ∉ g.fired := by
  unfold mayCommit
  rw [Bool.and_eq_true, Bool.not_eq_true', isCancelled_eq_false_iff, decide_eq_true_eq]

theorem mayCommit_eq_false_of_isCancelled {g : Gate} {p : Permit} (h : g.isCancelled p = true) :
    g.mayCommit p = false := by
  unfold mayCommit
  rw [h, Bool.not_true, Bool.and_false]

theorem isRunning_eq_false_iff (g : Gate) (node : String) :
    g.isRunning node = false ↔ g.running.get? node = none := by
  unfold isRunning
  rw [Option.isSome_eq_false_iff, Option.isNone_iff_eq_none]

/-! ## §2. Entering a test. -/

@[simp] theorem get?_running_enter (g : Gate) (node k : String) :
    (g.enter node).running.get? k = if k = node then some g.next else g.running.get? k :=
  Table.get?_insert g.running node k g.next

@[simp] theorem next_enter (g : Gate) (node : String) : (g.enter node).next = g.next + 1 := rfl

@[simp] theorem fired_enter (g : Gate) (node : String) : (g.enter node).fired = g.fired := rfl

/-! ## §3. Cancelling a node. -/

@[simp] theorem get?_running_cancel (g : Gate) (node k : String) :
    (g.cancel node).1.running.get? k = if k = node then none else g.running.get? k := by
  unfold cancel
  cases h : g.running.get? node with
  | some number => exact Table.get?_erase g.running node k
  | none =>
    show g.running.get? k = _
    split
    · next heq => rw [heq, h]
    · rfl

@[simp] theorem next_cancel (g : Gate) (node : String) : (g.cancel node).1.next = g.next := by
  unfold cancel
  cases g.running.get? node <;> rfl

/-- Cancelling fires the signal of the running test and no other. -/
theorem mem_fired_cancel (g : Gate) (node : String) (number : Nat) :
    number ∈ (g.cancel node).1.fired ↔ number ∈ g.fired ∨ g.running.get? node = some number := by
  unfold cancel
  cases g.running.get? node with
  | none => simp
  | some k =>
    show number ∈ k :: g.fired ↔ _
    rw [List.mem_cons, or_comm, Option.some.injEq, eq_comm (a := k)]

/-- Cancelling finds the running test of a node. -/
theorem found_cancel (g : Gate) (node : String) : (g.cancel node).2 = g.isRunning node := by
  unfold cancel isRunning
  cases g.running.get? node <;> rfl

theorem cancel_of_free {g : Gate} {node : String} (h : g.isRunning node = false) :
    g.cancel node = (g, false) := by
  rw [isRunning_eq_false_iff] at h
  simp only [cancel, h]

/-! ## §4. Giving a permit back. -/

/-- Only the permit's own entry goes. -/
@[simp] theorem get?_running_release (g : Gate) (p : Permit) (k : String) :
    (g.release p).running.get? k =
      if k = p.node ∧ g.running.get? p.node = some p.number then none else g.running.get? k := by
  unfold release
  by_cases h : g.running.get? p.node = some p.number
  · rw [if_pos h]
    show (g.running.erase p.node).get? k = _
    simp [h]
  · rw [if_neg h, if_neg (fun hk => h hk.2)]

/-- A permit that is given back at once only takes its number. -/
theorem release_enter {g : Gate} {node : String} (h : g.running.get? node = none) :
    (g.enter node).release ⟨node, g.next⟩ = { g with next := g.next + 1 } := by
  have hown : (g.enter node).running.get? node = some g.next := by
    rw [get?_running_enter, if_pos rfl]
  unfold release
  rw [if_pos hown]
  show ({ g with
    running := (g.running.insert node g.next).erase node, next := g.next + 1 } : Gate) = _
  rw [Table.erase_insert h]

/-- A permit that is given back at once leaves the running tests as they
were. -/
theorem get?_running_enter_release {g : Gate} {node : String} (h : g.running.get? node = none)
    (k : String) : ((g.enter node).release ⟨node, g.next⟩).running.get? k = g.running.get? k := by
  rw [release_enter h]

@[simp] theorem next_release (g : Gate) (p : Permit) : (g.release p).next = g.next := by
  unfold release
  split <;> rfl

@[simp] theorem fired_release (g : Gate) (p : Permit) : (g.release p).fired = g.fired := by
  unfold release
  split <;> rfl

end FlowBench.Gate
