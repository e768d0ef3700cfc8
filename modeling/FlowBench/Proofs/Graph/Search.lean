/-
  FlowBench.Proofs.Graph.Search
  ─────────────────────────────
  **A search meets what can be reached, each node once.**

  `Finds` is the loop without a bound: rounds until the queue is empty.  A
  bound on the unmet neighbours bounds the rounds (`finds_search`), so that
  `search` comes to its end.  What is met is told from the loop by induction
  on its rounds:

    • no node is met twice, and none that was met before (`Finds.nodup`),
    • what is met can be reached from the queue (`Finds.label`),
    • in the end no neighbour is left out (`Finds.closed`).
-/
import Mathlib.Data.List.Perm.Subperm
import Mathlib.Logic.Relation
import FlowBench.Graph.Search

namespace FlowBench.Search

variable {β : Type} {next : String → List (String × β)}

/-! ## §1. New neighbours. -/

/-- The new neighbours, each in the place of its first mention. -/
theorem fst_fresh : ∀ (met : List String) (l : List (String × β)),
    (fresh met l).map Prod.fst = ((l.map Prod.fst).filter fun x => x ∉ met).eraseDups
  | met, [] => by simp [fresh]
  | met, (x, b) :: rest => by
    unfold fresh
    rw [List.map_cons, List.filter_cons]
    by_cases hx : x ∈ met
    · rw [if_pos hx, if_neg (by simpa using hx), fst_fresh met rest]
    · rw [if_neg hx, if_pos (by simpa using hx), List.map_cons, fst_fresh (x :: met) rest,
        List.eraseDups_cons, List.filter_filter]
      -- a repeated neighbour counts as met from its first mention on
      congr 3
      funext y
      simp [beq_eq_decide]

theorem mem_fst_fresh_iff {met : List String} {l : List (String × β)} {x : String} :
    x ∈ (fresh met l).map Prod.fst ↔ x ∈ l.map Prod.fst ∧ x ∉ met := by
  rw [fst_fresh, List.mem_eraseDups, List.mem_filter, decide_eq_true_eq]

theorem mem_of_mem_fresh : ∀ {met : List String} {l : List (String × β)} {p : String × β},
    p ∈ fresh met l → p ∈ l
  | met, (x, b) :: rest, p, h => by
    unfold fresh at h
    split at h
    · exact List.mem_cons_of_mem _ (mem_of_mem_fresh h)
    · rcases List.mem_cons.1 h with rfl | h
      · exact List.mem_cons_self
      · exact List.mem_cons_of_mem _ (mem_of_mem_fresh h)

theorem nodup_fst_fresh : ∀ (met : List String) (l : List (String × β)),
    ((fresh met l).map Prod.fst).Nodup
  | met, [] => by simp [fresh]
  | met, (x, b) :: rest => by
    unfold fresh
    split
    · exact nodup_fst_fresh met rest
    · rw [List.map_cons, List.nodup_cons]
      refine ⟨fun h => ?_, nodup_fst_fresh (x :: met) rest⟩
      exact (mem_fst_fresh_iff.1 h).2 List.mem_cons_self

/-! ## §2. The loop and its bound. -/

variable (next) in
/-- What is met from a queue on when the search goes on until the queue is
empty. -/
inductive Finds : List String → List String → List (String × β) → Prop where
  | done (met : List String) : Finds [] met []
  | round {x : String} {queue met : List String} {new found : List (String × β)}
      (hnew : new = fresh met (next x))
      (h : Finds (queue ++ new.map Prod.fst) (new.map Prod.fst ++ met) found) :
      Finds (x :: queue) met (new ++ found)

/-- New nodes are fewer than those that were not met, by those that are
still not met. -/
theorem length_new_add_unmet_le (pool : List String) {new met : List String} (hnodup : new.Nodup)
    (hnew : ∀ x ∈ new, x ∈ pool ∧ x ∉ met) :
    new.length + (pool.filter fun x => x ∉ new ++ met).length ≤
      (pool.filter fun x => x ∉ met).length := by
  have hsplit := List.length_eq_length_filter_add (l := pool.filter fun x => x ∉ met)
    fun x => x ∈ new
  have hcovered : new ⊆ (pool.filter fun x => x ∉ met).filter fun x => x ∈ new := by
    intro x hx
    simpa [hx] using hnew x hx
  have hle := (hnodup.subperm hcovered).length_le
  -- what is not met after the round is what was not met before and is not new
  have hrest : (pool.filter fun x => x ∉ met).filter (fun x => !decide (x ∈ new)) =
      pool.filter fun x => x ∉ new ++ met := by
    rw [List.filter_filter]
    congr 1
    funext x
    simp
  rw [hrest] at hsplit
  omega

/-- **A search comes to its end**: a round takes a node off the queue and
puts nodes on it that were not met, of which there are only so many. -/
theorem finds_search (pool : List String)
    (hnext : ∀ x, ∀ y ∈ (next x).map Prod.fst, y ∈ pool) :
    ∀ (rounds : Nat) (queue met : List String),
      queue.length + (pool.filter fun x => x ∉ met).length ≤ rounds →
        Finds next queue met (search next rounds queue met)
  | 0, [], met, _ => .done met
  | 0, x :: queue, met, h => by
    rw [List.length_cons] at h
    omega
  | _ + 1, [], met, _ => .done met
  | rounds + 1, x :: queue, met, h => by
    refine .round rfl (finds_search pool hnext rounds _ _ ?_)
    have hle := length_new_add_unmet_le pool (nodup_fst_fresh met (next x))
      fun y hy => ⟨hnext x y (mem_fst_fresh_iff.1 hy).1, (mem_fst_fresh_iff.1 hy).2⟩
    -- one node leaves the queue, and those that join it are no longer unmet
    rw [List.length_cons] at h
    rw [List.length_append]
    omega

/-- From one node, one round more than there are neighbours is enough. -/
theorem finds_search_start (pool : List String)
    (hnext : ∀ x, ∀ y ∈ (next x).map Prod.fst, y ∈ pool) (start : String) :
    Finds next [start] [start] (search next (pool.length + 1) [start] [start]) := by
  refine finds_search pool hnext _ _ _ ?_
  have hle := List.length_filter_le (fun x => decide (x ∉ [start])) pool
  rw [List.length_singleton]
  omega

/-! ## §3. What is met. -/

variable (next) in
/-- One node leads to another through neighbours. -/
def Leads : String → String → Prop :=
  Relation.ReflTransGen fun a b => b ∈ (next a).map Prod.fst

namespace Finds

variable {queue met : List String} {found : List (String × β)}

/-- The first round of a search. -/
theorem first {x : String} (h : Finds next (x :: queue) met found) :
    ∃ new rest, new = fresh met (next x) ∧ found = new ++ rest ∧
      Finds next (queue ++ new.map Prod.fst) (new.map Prod.fst ++ met) rest := by
  cases h with
  | round hnew hrest => exact ⟨_, _, hnew, rfl, hrest⟩

/-- Each node is met once, and none that was met before. -/
theorem nodup (h : Finds next queue met found) :
    (found.map Prod.fst).Nodup ∧ ∀ x ∈ found.map Prod.fst, x ∉ met := by
  induction h with
  | done met => simp
  | @round x queue met new found hnew _ ih =>
    obtain ⟨hnodup, hmet⟩ := ih
    subst hnew
    rw [List.map_append, List.nodup_append]
    refine ⟨⟨nodup_fst_fresh met (next x), hnodup, ?_⟩, ?_⟩
    -- what is new counts as met in the rounds that follow
    · intro y hy z hz heq
      exact hmet z hz (List.mem_append_left _ (heq ▸ hy))
    · intro y hy
      rcases List.mem_append.1 hy with hy | hy
      · exact (mem_fst_fresh_iff.1 hy).2
      · exact fun hmem => hmet y hy (List.mem_append_right _ hmem)

/-- What is met is a neighbour, under the label, of a node of the queue or
of one that is met itself. -/
theorem label (h : Finds next queue met found) {p : String × β} (hp : p ∈ found) :
    ∃ x, (x ∈ queue ∨ x ∈ found.map Prod.fst) ∧ p ∈ next x := by
  induction h with
  | done met => cases hp
  | @round x queue met new found hnew _ ih =>
    rcases List.mem_append.1 hp with hp | hp
    · subst hnew
      exact ⟨x, .inl List.mem_cons_self, mem_of_mem_fresh hp⟩
    · -- what the later queue holds beyond this one was met in this round
      obtain ⟨y, hy, hpy⟩ := ih hp
      refine ⟨y, ?_, hpy⟩
      rw [List.map_append]
      rcases hy with hy | hy
      · rcases List.mem_append.1 hy with hy | hy
        · exact .inl (List.mem_cons_of_mem _ hy)
        · exact .inr (List.mem_append_left _ hy)
      · exact .inr (List.mem_append_right _ hy)

/-- Once the queue is empty, the neighbours of what was met were met, if at
first only the queue had neighbours that were not. -/
theorem closed (h : Finds next queue met found)
    (hmet : ∀ x ∈ met, x ∈ queue ∨ ∀ y ∈ (next x).map Prod.fst, y ∈ met) :
    ∀ x, x ∈ met ∨ x ∈ found.map Prod.fst →
      ∀ y ∈ (next x).map Prod.fst, y ∈ met ∨ y ∈ found.map Prod.fst := by
  induction h with
  | done met =>
    intro x hx y hy
    rcases hx with hx | hx
    · exact .inl (((hmet x hx).resolve_left List.not_mem_nil) y hy)
    · cases hx
  | @round x queue met new found hnew _ ih =>
    -- the queue is shorter by `x`, whose neighbours are met or new
    have hnext : ∀ z ∈ new.map Prod.fst ++ met, z ∈ queue ++ new.map Prod.fst ∨
        ∀ y ∈ (next z).map Prod.fst, y ∈ new.map Prod.fst ++ met := by
      intro z hz
      rcases List.mem_append.1 hz with hz | hz
      · exact .inl (List.mem_append_right _ hz)
      · rcases hmet z hz with hqueue | hknown
        · rcases List.mem_cons.1 hqueue with rfl | hqueue
          · refine .inr fun y hy => ?_
            by_cases hymet : y ∈ met
            · exact List.mem_append_right _ hymet
            · refine List.mem_append_left _ ?_
              rw [hnew]
              exact mem_fst_fresh_iff.2 ⟨hy, hymet⟩
          · exact .inl (List.mem_append_left _ hqueue)
        · exact .inr fun y hy => List.mem_append_right _ (hknown y hy)
    -- both ends speak of the same nodes, split in another place
    have hsame : ∀ z, z ∈ met ∨ z ∈ (new ++ found).map Prod.fst ↔
        z ∈ new.map Prod.fst ++ met ∨ z ∈ found.map Prod.fst := by
      intro z
      rw [List.map_append, List.mem_append, List.mem_append]
      tauto
    intro z hz y hy
    rw [hsame] at hz ⊢
    exact ih hnext z hz y hy

/-- What can be reached from nodes that a node leads to can be reached from
that node. -/
theorem leads {start : String} (h : Finds next queue met found)
    (hqueue : ∀ x ∈ queue, Leads next start x) : ∀ y ∈ found.map Prod.fst, Leads next start y := by
  induction h with
  | done met => simp
  | @round x queue met new found hnew _ ih =>
    have hnewleads : ∀ y ∈ new.map Prod.fst, Leads next start y := by
      intro y hy
      rw [hnew] at hy
      exact (hqueue x List.mem_cons_self).tail (mem_fst_fresh_iff.1 hy).1
    intro y hy
    rw [List.map_append] at hy
    rcases List.mem_append.1 hy with hy | hy
    · exact hnewleads y hy
    · refine ih (fun z hz => ?_) y hy
      rcases List.mem_append.1 hz with hz | hz
      · exact hqueue z (List.mem_cons_of_mem _ hz)
      · exact hnewleads z hz

/-- **From one node, a search meets what the node leads to, itself apart.** -/
theorem mem_iff {start : String} (h : Finds next [start] [start] found) {x : String} :
    x ∈ found.map Prod.fst ↔ x ≠ start ∧ Leads next start x := by
  constructor
  · intro hx
    refine ⟨fun heq => h.nodup.2 x hx (by simp [heq]), ?_⟩
    refine h.leads (fun z hz => ?_) x hx
    rw [List.mem_singleton.1 hz]
    exact .refl
  · rintro ⟨hne, hleads⟩
    have hclosed := h.closed (by simp)
    -- no step leads out of what was met
    have hmem : x ∈ [start] ∨ x ∈ found.map Prod.fst := by
      induction hleads with
      | refl => exact .inl List.mem_cons_self
      | @tail y z _ hstep ih =>
        by_cases hys : y = start
        · exact hclosed y (.inl (by simp [hys])) z hstep
        · exact hclosed y (ih hys) z hstep
    exact hmem.resolve_left (by simpa using hne)

end Finds

end FlowBench.Search
