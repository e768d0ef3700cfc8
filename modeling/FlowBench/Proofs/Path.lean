/-
  FlowBench.Proofs.Path
  ─────────────────────
  **Paths that are joined by a point.**

  Cutting a text at its points is `List.splitOnP`, so the pieces of two
  texts with a point between them are the pieces of the one and then those
  of the other.  A joined path therefore is read as both of its halves are,
  and is malformed as soon as one of them is (`parse?_join`).
-/
import Mathlib.Data.List.TakeWhile
import FlowBench.Path

namespace FlowBench.Path

/-! ## §1. Pieces. -/

theorem pieces_eq_splitOnP (cs : List Char) : pieces cs = cs.splitOnP (· == '.') := by
  induction cs with
  | nil => rfl
  | cons c rest ih =>
    unfold pieces
    rw [ih, List.splitOnP_cons_eq_if_modifyHead]
    by_cases hc : c = '.'
    · rw [if_pos hc, if_pos (beq_iff_eq.2 hc)]
    · rw [if_neg hc, if_neg (fun h => hc (beq_iff_eq.1 h))]
      -- a cut text has a first piece, so the branch without one is never taken
      cases hrest : rest.splitOnP (· == '.') with
      | nil => exact absurd hrest (List.splitOnP_ne_nil _ _)
      | cons piece more => rfl

/-- A point between two texts cuts them apart. -/
theorem pieces_join (cs ds : List Char) : pieces (cs ++ '.' :: ds) = pieces cs ++ pieces ds := by
  rw [pieces_eq_splitOnP, pieces_eq_splitOnP, pieces_eq_splitOnP]
  exact List.splitOnP_append_cons cs ds (beq_self_eq_true '.')

/-- A text without a point is one piece. -/
theorem pieces_of_no_point {cs : List Char} (h : '.' ∉ cs) : pieces cs = [cs] := by
  rw [pieces_eq_splitOnP]
  apply List.splitOnP_eq_singleton
  intro c hc
  rw [beq_eq_false_iff_ne]
  intro heq
  exact h (heq ▸ hc)

/-! ## §2. Reading a path. -/

theorem segment?_nil : segment? [] = none := by
  unfold segment?
  simp [indices?]

/-- A path is read piece by piece; the empty text has one piece, which is no
segment. -/
theorem parse?_eq_mapM (path : String) : parse? path = (pieces path.toList).mapM segment? := by
  unfold parse?
  by_cases hempty : path.isEmpty = true
  · rw [if_pos hempty, String.isEmpty_iff.1 hempty]
    show none = [[]].mapM segment?
    rw [List.mapM_cons, segment?_nil]
    rfl
  · rw [if_neg hempty]

/-- **Two paths joined by a point are read one after the other.** -/
theorem parse?_join (p q : String) :
    parse? (p ++ "." ++ q) = (parse? p).bind fun ss => (parse? q).map fun ts => ss ++ ts := by
  have hlist : (p ++ "." ++ q).toList = p.toList ++ '.' :: q.toList := by simp
  rw [parse?_eq_mapM, parse?_eq_mapM, parse?_eq_mapM, hlist, pieces_join, List.mapM_append]
  -- reading stops at the first piece that is no segment, so the first half decides first
  cases (pieces p.toList).mapM segment? with
  | none => rfl
  | some ss => cases (pieces q.toList).mapM segment? <;> rfl

/-- A text that is not empty and has neither point nor bracket is a path of
one key. -/
theorem parse?_of_key {key : String} (hne : key ≠ "") (hpoint : '.' ∉ key.toList)
    (hbracket : '[' ∉ key.toList) : parse? key = some [⟨key, []⟩] := by
  have hall : ∀ c ∈ key.toList, decide (c ≠ '[') = true := by
    intro c hc
    rw [decide_eq_true_iff]
    intro heq
    exact hbracket (heq ▸ hc)
  have hkey : key.toList.takeWhile (· ≠ '[') = key.toList := List.takeWhile_eq_self_iff.2 hall
  have hindices : key.toList.dropWhile (· ≠ '[') = [] := List.dropWhile_eq_nil_iff.2 hall
  -- the key takes the whole text, and no group of brackets is left
  have hsegment : segment? key.toList = some ⟨key, []⟩ := by
    unfold segment?
    rw [hkey, hindices, indices?]
    simp [hne]
  rw [parse?_eq_mapM, pieces_of_no_point hpoint, List.mapM_cons, hsegment]
  rfl

end FlowBench.Path
