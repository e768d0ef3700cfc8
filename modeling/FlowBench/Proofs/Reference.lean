/-
  FlowBench.Proofs.Reference
  ──────────────────────────
  **The name that a reference reads from.**

  `nodeName?` takes the name off the text of a direct path; looking the path
  up takes the head key off its segments.  They are the same text
  (`Path.key_of_parse?`), so a reference finds nothing where its name is not
  bound: a key that is named is no keyword, and the clock is not named.
-/
import Mathlib.Data.List.TakeWhile
import FlowBench.Reference

namespace FlowBench

/-! ## §1. The head of a path. -/

namespace Path

/-- The first piece of a text reaches to its first point. -/
theorem pieces_eq_cons : ∀ cs : List Char, ∃ more, pieces cs = cs.takeWhile (· ≠ '.') :: more
  | [] => ⟨[], rfl⟩
  | c :: rest => by
    obtain ⟨more, hmore⟩ := pieces_eq_cons rest
    unfold pieces
    by_cases hc : c = '.'
    · rw [if_pos hc, hc]
      exact ⟨pieces rest, rfl⟩
    · rw [if_neg hc, hmore, List.takeWhile_cons_of_pos (by simpa using hc)]
      exact ⟨more, rfl⟩

/-- The key of a segment reaches to its first bracket. -/
theorem key_of_segment? {cs : List Char} {s : Segment} (h : segment? cs = some s) :
    s.key = String.ofList (cs.takeWhile (· ≠ '[')) := by
  unfold segment? at h
  obtain ⟨is, -, h⟩ := Option.bind_eq_some_iff.1 h
  split at h
  · cases h
  · cases h
    rfl

/-- **The head key of a path reaches to the first point or bracket of its
text.** -/
theorem key_of_parse? {path : String} {head : Segment} {rest : List Segment}
    (h : parse? path = some (head :: rest)) :
    head.key = String.ofList (path.toList.takeWhile fun c => c ≠ '.' && c ≠ '[') := by
  unfold parse? at h
  split at h
  · cases h
  · obtain ⟨more, hmore⟩ := pieces_eq_cons path.toList
    rw [hmore, List.mapM_cons] at h
    obtain ⟨s, hs, h⟩ := Option.bind_eq_some_iff.1 h
    obtain ⟨ss, -, h⟩ := Option.bind_eq_some_iff.1 h
    cases h
    rw [key_of_segment? hs, List.takeWhile_takeWhile]
    congr 2
    funext c
    simp [Bool.and_comm]

end Path

/-! ## §2. The name of a reference. -/

namespace Reference

/-- A direct path names its head key, unless that is empty or a keyword, or
the path reads the clock. -/
theorem nodeName?_direct_eq_some_iff {path name : String} :
    (direct path).nodeName? = some name ↔
      ∃ head rest, Path.parse? path = some (head :: rest) ∧ head.key = name ∧
        name ≠ "" ∧ name ≠ inputKey ∧ name ≠ jsonKey ∧ path ≠ nowPath := by
  cases hparse : Path.parse? path with
  | none => simp [nodeName?, hparse]
  | some segments =>
    cases segments with
    | nil => simp [nodeName?, hparse]
    | cons head rest =>
      -- what the name is cut off from is the text that gave the key
      have hkey := Path.key_of_parse? hparse
      simp only [nodeName?, hparse, ← hkey, String.isEmpty_iff]
      constructor
      · intro h
        split at h
        · cases h
        · next hno =>
          cases h
          rw [not_or, not_or, not_or] at hno
          exact ⟨head, rest, rfl, rfl, hno⟩
      · rintro ⟨head', rest', heq, rfl, hno⟩
        cases heq
        rw [if_neg]
        rw [not_or, not_or, not_or]
        exact hno

/-- **A reference finds nothing where its name is not bound.** -/
theorem resolve?_eq_none {r : Reference} {name : String} (h : r.nodeName? = some name)
    {u : Context} (hu : u.named.get? name = none) (clock : String) :
    r.resolve? clock u = none := by
  cases r with
  | qualified node path =>
    injection h with h
    subst h
    cases path with
    | none => exact hu
    | some path =>
      show (u.named.get? node).bind _ = none
      rw [hu]
      rfl
  | direct path =>
    obtain ⟨head, rest, hparse, rfl, -, hinput, hjson, hnow⟩ := nodeName?_direct_eq_some_iff.1 h
    have hroot : u.root? head.key = none := by
      unfold Context.root?
      rw [hu]
      show (if _ then _ else _) = _
      rw [if_neg hinput, if_neg hjson]
    show u.resolve? clock path = none
    unfold Context.resolve?
    rw [if_neg hnow, hparse]
    show (u.root? head.key).bind _ = none
    rw [hroot]
    rfl

end Reference

end FlowBench
