/-
  FlowBench.Proofs.Gate.Tally
  ───────────────────────────
  **The gate tallies with the permits that are out.**

  `Tally` is what holds between a gate and the permits that it gave out and
  did not get back.  A permit that was cancelled stays out until its holder
  gives it back, so that several permits of one node may be out at once; only
  one of them has an entry.  Each operation of the gate keeps the tally,
  together with what it does to the permits that are out.
-/
import Mathlib.Data.List.Nodup
import FlowBench.Proofs.Gate

namespace FlowBench

/-- The entries are those of the permits that are out and whose signal is
silent, and no number is given out twice. -/
structure Tally (g : Gate) (ps : List Permit) : Prop where
  numbered : ∀ p ∈ ps, p.number < g.next
  distinct : (ps.map Permit.number).Nodup
  fired : ∀ k ∈ g.fired, k < g.next
  held : ∀ node k, g.running.get? node = some k → k ∉ g.fired ∧ ⟨node, k⟩ ∈ ps
  silent : ∀ p ∈ ps, p.number ∉ g.fired → g.running.get? p.node = some p.number

namespace Tally

variable {g : Gate} {ps : List Permit} {p : Permit} {node : String}

/-- Two permits that are out with one number are one permit. -/
theorem unique (h : Tally g ps) {q : Permit} (hp : p ∈ ps) (hq : q ∈ ps)
    (hn : p.number = q.number) : p = q :=
  List.inj_on_of_nodup_map h.distinct hp hq hn

/-- A permit that is out may commit until it is cancelled. -/
theorem mayCommit_iff (h : Tally g ps) (hp : p ∈ ps) :
    g.mayCommit p = true ↔ p.number ∉ g.fired := by
  rw [g.mayCommit_iff]
  exact ⟨fun hm => hm.2, fun hs => ⟨h.silent p hp hs, hs⟩⟩

/-- An entry is that of the one permit of its node whose signal is silent. -/
theorem get?_running_iff (h : Tally g ps) {k : Nat} :
    g.running.get? node = some k ↔ ⟨node, k⟩ ∈ ps ∧ k ∉ g.fired := by
  constructor
  · intro hrun
    obtain ⟨hsilent, hmem⟩ := h.held node k hrun
    exact ⟨hmem, hsilent⟩
  · rintro ⟨hmem, hsilent⟩
    exact h.silent _ hmem hsilent

theorem isRunning_iff (h : Tally g ps) :
    g.isRunning node = true ↔ ∃ p ∈ ps, p.node = node ∧ p.number ∉ g.fired := by
  unfold Gate.isRunning
  rw [Option.isSome_iff_exists]
  constructor
  · rintro ⟨k, hrun⟩
    obtain ⟨hmem, hsilent⟩ := h.get?_running_iff.1 hrun
    exact ⟨_, hmem, rfl, hsilent⟩
  · rintro ⟨p, hmem, rfl, hsilent⟩
    exact ⟨p.number, h.silent p hmem hsilent⟩

/-- Of the permits of a node that are out, one at most was not cancelled. -/
theorem eq_of_silent (h : Tally g ps) {q : Permit} (hp : p ∈ ps) (hq : q ∈ ps)
    (hnode : p.node = q.node) (hps : p.number ∉ g.fired) (hqs : q.number ∉ g.fired) : p = q := by
  have hrun := h.silent p hp hps
  rw [hnode, h.silent q hq hqs, Option.some.injEq] at hrun
  exact h.unique hp hq hrun.symm

theorem empty : Tally {} [] where
  numbered := by simp
  distinct := List.nodup_nil
  fired := by intro k hk; cases hk
  held := by intro node k hk; simp [Table.get?_empty] at hk
  silent := by simp

/-! ## What keeps it. -/

/-- A permit is given out. -/
theorem enter (h : Tally g ps) (hr : g.running.get? node = none) :
    Tally (g.enter node) (ps ++ [⟨node, g.next⟩]) where
  numbered := by
    intro p hp
    rw [Gate.next_enter]
    rcases List.mem_append.1 hp with hp | hp
    · have := h.numbered p hp
      omega
    · rw [List.mem_singleton.1 hp]
      exact Nat.lt_succ_self g.next
  distinct := by
    rw [List.map_append, List.nodup_append]
    refine ⟨h.distinct, List.nodup_singleton _, ?_⟩
    intro k hk k' hk' heq
    obtain ⟨p, hp, rfl⟩ := List.mem_map.1 hk
    have hlt := h.numbered p hp
    have hnext : k' = g.next := by simpa using hk'
    omega
  fired := by
    intro k hk
    have := h.fired k hk
    rw [Gate.next_enter]
    omega
  held := by
    intro node' k hk
    rw [Gate.get?_running_enter] at hk
    split at hk
    · next heq =>
      injection hk with hk
      subst hk
      refine ⟨fun hfired => ?_, by simp [heq]⟩
      exact absurd (h.fired _ hfired) (Nat.lt_irrefl _)
    · obtain ⟨hsilent, hmem⟩ := h.held node' k hk
      exact ⟨hsilent, List.mem_append_left _ hmem⟩
  silent := by
    intro p hp hsilent
    rw [Gate.get?_running_enter]
    rcases List.mem_append.1 hp with hp | hp
    · have hrun := h.silent p hp hsilent
      -- an entry for the node would have kept the new permit from being given out
      rw [if_neg (fun heq => by rw [heq, hr] at hrun; cases hrun), hrun]
    · rw [List.mem_singleton.1 hp, if_pos rfl]

/-- A permit is given back unused. -/
theorem unused (h : Tally g ps) (hr : g.running.get? node = none) :
    Tally ((g.enter node).release ⟨node, g.next⟩) ps := by
  rw [Gate.release_enter hr]
  exact ⟨fun p hp => Nat.lt_succ_of_lt (h.numbered p hp), h.distinct,
    fun k hk => Nat.lt_succ_of_lt (h.fired k hk), h.held, h.silent⟩

/-- A node is cancelled. -/
theorem cancel (h : Tally g ps) (node : String) : Tally (g.cancel node).1 ps where
  numbered := by simpa using h.numbered
  distinct := h.distinct
  fired := by
    intro k hk
    rw [Gate.next_cancel]
    rcases (g.mem_fired_cancel node k).1 hk with hk | hk
    · exact h.fired k hk
    · exact h.numbered _ (h.held node k hk).2
  held := by
    intro node' k hk
    rw [Gate.get?_running_cancel] at hk
    split at hk
    · cases hk
    · next hne =>
      obtain ⟨hsilent, hmem⟩ := h.held node' k hk
      refine ⟨fun hfired => ?_, hmem⟩
      rcases (g.mem_fired_cancel node k).1 hfired with hfired | hother
      · exact hsilent hfired
      · -- the entry that goes has another number, since numbers are told apart
        have heq := h.unique hmem (h.held node k hother).2 rfl
        injection heq with hnode
        exact hne hnode
  silent := by
    intro p hp hsilent
    rw [Gate.mem_fired_cancel, not_or] at hsilent
    have hrun := h.silent p hp hsilent.1
    rw [Gate.get?_running_cancel, if_neg, hrun]
    intro heq
    rw [heq] at hrun
    exact hsilent.2 hrun

/-- A permit is given back: the others stay out. -/
theorem release (h : Tally g ps) (hp : p ∈ ps) {qs : List Permit} (hsub : qs.Sublist ps)
    (hmem : ∀ q, q ∈ qs ↔ q ∈ ps ∧ q ≠ p) : Tally (g.release p) qs where
  numbered := by
    intro q hq
    rw [Gate.next_release]
    exact h.numbered q (hsub.subset hq)
  distinct := h.distinct.sublist (hsub.map _)
  fired := by simpa using h.fired
  held := by
    intro node k hk
    rw [Gate.get?_running_release] at hk
    split at hk
    · cases hk
    · next hkept =>
      obtain ⟨hsilent, hout⟩ := h.held node k hk
      rw [Gate.fired_release]
      refine ⟨hsilent, (hmem _).2 ⟨hout, ?_⟩⟩
      rintro rfl
      exact hkept ⟨rfl, hk⟩
  silent := by
    intro q hq hsilent
    obtain ⟨hout, hne⟩ := (hmem q).1 hq
    rw [Gate.fired_release] at hsilent
    have hrun := h.silent q hout hsilent
    rw [Gate.get?_running_release, if_neg, hrun]
    rintro ⟨hnode, howner⟩
    rw [hnode, howner, Option.some.injEq] at hrun
    exact hne (h.unique hout hp hrun.symm)

/-- Giving back a permit that was cancelled does nothing to the gate. -/
theorem release_of_fired (h : Tally g ps) (hfired : p.number ∈ g.fired) : g.release p = g := by
  unfold Gate.release
  rw [if_neg]
  intro hrun
  exact (h.held p.node p.number hrun).1 hfired

end Tally

end FlowBench
