/-
  FlowBench.Proofs.Session.Permits
  ────────────────────────────────
  **The gate and the tests under way agree.**

  `Ledger` is what holds between the entries of the gate, the signals that
  have fired and the permits of the tests under way: the gate tallies with
  those permits.  Every operation on the gate keeps it, together with what
  the session does to its tests at the same time, so it holds along every
  run.
-/
import FlowBench.Proofs.Gate.Tally
import FlowBench.Proofs.Session.Act

namespace FlowBench

/-! ## §1. The ledger. -/

/-- The running entries are those of the tests under way whose signal is
silent, and no number is given out twice. -/
structure Ledger (g : Gate) (fs : List Flight) : Prop where
  numbered : ∀ f ∈ fs, f.permit.number < g.next
  distinct : (fs.map fun f => f.permit.number).Nodup
  fired : ∀ k ∈ g.fired, k < g.next
  held : ∀ id k, g.running.get? id = some k → k ∉ g.fired ∧ ∃ f ∈ fs, f.permit = ⟨id, k⟩
  silent : ∀ f ∈ fs, f.permit.number ∉ g.fired →
    g.running.get? f.permit.node = some f.permit.number

namespace Ledger

variable {g : Gate} {fs : List Flight}

/-- Two tests under way with one number are one test. -/
theorem unique (h : Ledger g fs) {f f' : Flight} (hf : f ∈ fs) (hf' : f' ∈ fs)
    (hn : f.permit.number = f'.permit.number) : f = f' :=
  List.inj_on_of_nodup_map h.distinct hf hf' hn

/-- The ledger is the tally of the permits of the tests under way. -/
theorem iff_tally : Ledger g fs ↔ Tally g (fs.map Flight.permit) := by
  constructor
  · intro h
    refine ⟨?_, ?_, h.fired, ?_, ?_⟩
    · rw [List.forall_mem_map]
      exact h.numbered
    · rw [List.map_map]
      exact h.distinct
    · intro id k hk
      obtain ⟨hsilent, f, hf, hperm⟩ := h.held id k hk
      exact ⟨hsilent, hperm ▸ List.mem_map_of_mem hf⟩
    · rw [List.forall_mem_map]
      exact h.silent
  · intro h
    refine ⟨?_, ?_, h.fired, ?_, ?_⟩
    · exact List.forall_mem_map.1 h.numbered
    · have hdistinct := h.distinct
      rwa [List.map_map] at hdistinct
    · intro id k hk
      obtain ⟨hsilent, hmem⟩ := h.held id k hk
      exact ⟨hsilent, List.mem_map.1 hmem⟩
    · exact List.forall_mem_map.1 h.silent

/-- A permit may commit exactly while it is under way and not cancelled. -/
theorem mayCommit_iff (h : Ledger g fs) {f : Flight} (hf : f ∈ fs) :
    g.mayCommit f.permit = true ↔ f.permit.number ∉ g.fired :=
  (iff_tally.1 h).mayCommit_iff (List.mem_map_of_mem hf)

theorem empty : Ledger {} [] := iff_tally.2 Tally.empty

/-! ## §2. What keeps it. -/

/-- A test is admitted. -/
theorem enter (h : Ledger g fs) {id : String} (hr : g.running.get? id = none) {f : Flight}
    (hf : f.permit = ⟨id, g.next⟩) : Ledger (g.enter id) (fs ++ [f]) := by
  have htally := (iff_tally.1 h).enter hr
  rw [← hf] at htally
  rw [iff_tally, List.map_append]
  exact htally

/-- A permit is given back unused. -/
theorem unused (h : Ledger g fs) {id : String} (hr : g.running.get? id = none) :
    Ledger ((g.enter id).release ⟨id, g.next⟩) fs :=
  iff_tally.2 ((iff_tally.1 h).unused hr)

/-- A node is cancelled. -/
theorem cancel (h : Ledger g fs) (id : String) : Ledger (g.cancel id).1 fs :=
  iff_tally.2 ((iff_tally.1 h).cancel id)

/-- A test ends. -/
theorem release (h : Ledger g fs) {f : Flight} (hf : f ∈ fs) :
    Ledger (g.release f.permit) (fs.filter fun x => x.permit.number ≠ f.permit.number) := by
  refine iff_tally.2 ((iff_tally.1 h).release (List.mem_map_of_mem hf)
    (List.filter_sublist.map _) fun q => ?_)
  simp only [List.mem_map, List.mem_filter, decide_eq_true_eq]
  constructor
  · rintro ⟨x, ⟨hx, hne⟩, rfl⟩
    exact ⟨⟨x, hx, rfl⟩, fun heq => hne (congrArg Permit.number heq)⟩
  · rintro ⟨⟨x, hx, rfl⟩, hne⟩
    -- another test has another number
    exact ⟨x, ⟨hx, fun heq => hne (congrArg Flight.permit (h.unique hx hf heq))⟩, rfl⟩

end Ledger

/-! ## §3. Along every run. -/

namespace Session

variable {s s' : Session} {a : Act} {answer : Answer}

/-- The gate of a session agrees with its tests under way. -/
def Booked (s : Session) : Prop := Ledger s.gate s.flights

theorem flight?_eq_some {number : Nat} {f : Flight} (h : s.flight? number = some f) :
    f ∈ s.flights ∧ f.permit.number = number := by
  unfold flight? at h
  exact ⟨List.mem_of_find?_eq_some h, by simpa using List.find?_some h⟩

theorem Step.booked (hs : Step s a s' answer) (h : s.Booked) : s'.Booked := by
  unfold Booked at *
  cases hs with
  | rejected | stray | waiting | asking | idle | notAdded | notRenamed | notRemoved
    | notConnected | added | renamed => exact h
  | connected => split <;> exact h
  | unknown hrun => exact h.unused ((Gate.isRunning_eq_false_iff _ _).1 hrun)
  | started hrun => exact h.enter ((Gate.isRunning_eq_false_iff _ _).1 hrun) rfl
  | abandoned hf => exact h.release (flight?_eq_some hf).1
  | settled hf =>
    rw [gate_land, flights_land, gate_commit, flights_commit]
    exact h.release (flight?_eq_some hf).1
  | cancelled => exact h.cancel _
  | removed => exact h.cancel _

/-- **The gate agrees with the tests under way, whatever happened.** -/
theorem booked_run (w : Workflow) (acts : List Act) : ((ofWorkflow w).run acts).Booked :=
  run_keeps Step.booked acts (show Ledger {} [] from Ledger.empty)

end Session

end FlowBench
