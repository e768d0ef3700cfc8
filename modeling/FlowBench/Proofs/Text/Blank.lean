/-
  FlowBench.Proofs.Text.Blank
  ───────────────────────────
  **Blanks around a text.**

  Trimming takes off blanks at both ends and nothing else: a text is its
  trimmed form with blanks around it (`exists_blanks_around_trim`), and what
  neither starts nor ends on a blank is left of itself between blanks
  (`trim_between`).
-/
import Mathlib.Data.List.DropRight
import FlowBench.Text.Blank

namespace FlowBench

/-- The empty text is blank. -/
theorem blank_nil : ∀ c ∈ ([] : List Char), isBlank c = true := List.forall_mem_nil _

/-- A digit is no blank. -/
theorem not_isBlank_of_isDigit {c : Char} (h : c.isDigit = true) : isBlank c = false := by
  have hcode : 48 ≤ c.toNat ∧ c.toNat ≤ 57 := by
    simpa [Char.isDigit, UInt32.le_iff_toNat_le] using h
  simp [isBlank]
  omega

theorem trimEnd_eq_rdropWhile (cs : List Char) : trimEnd cs = cs.rdropWhile isBlank := by
  induction cs with
  | nil => rfl
  | cons c rest ih =>
    unfold trimEnd List.rdropWhile
    rw [ih, List.reverse_cons, List.dropWhile_append, List.rdropWhile]
    cases hrest : rest.reverse.dropWhile isBlank with
    | nil => by_cases hc : isBlank c = true <;> simp [hc]
    | cons d ds => simp

/-- A text is what is left of it between the blanks that were taken off. -/
theorem exists_blanks_around_trim (cs : List Char) : ∃ before after,
    (∀ c ∈ before, isBlank c = true) ∧ (∀ c ∈ after, isBlank c = true) ∧
      cs = before ++ trim cs ++ after := by
  let front := cs.takeWhile isBlank
  let rest := cs.dropWhile isBlank
  refine ⟨front, rest.rtakeWhile isBlank, fun c hc => List.mem_takeWhile_imp hc,
    fun c hc => List.mem_rtakeWhile_imp hc, ?_⟩
  show cs = front ++ trimEnd rest ++ rest.rtakeWhile isBlank
  rw [trimEnd_eq_rdropWhile, List.append_assoc, List.rdropWhile_append_rtakeWhile,
    List.takeWhile_append_dropWhile]

/-- Blanks at the end are taken off up to what is no blank. -/
theorem trimEnd_append_blanks {cs after : List Char} (hafter : ∀ c ∈ after, isBlank c = true)
    (hlast : ∀ c, cs.getLast? = some c → isBlank c = false) : trimEnd (cs ++ after) = cs := by
  have hreverse : ∀ c ∈ after.reverse, isBlank c = true := fun c hc =>
    hafter c (List.mem_reverse.1 hc)
  have hkept : cs.rdropWhile isBlank = cs := by
    rw [List.rdropWhile_eq_self_iff]
    intro hne
    exact Bool.eq_false_iff.1 (hlast _ (List.getLast?_eq_getLast_of_ne_nil hne))
  rw [trimEnd_eq_rdropWhile, List.rdropWhile, List.reverse_append,
    List.dropWhile_append_of_pos hreverse]
  exact hkept

/-- Of a text between blanks the text is left. -/
theorem trim_between {before after cs : List Char} (hbefore : ∀ c ∈ before, isBlank c = true)
    (hafter : ∀ c ∈ after, isBlank c = true) (hhead : ∀ c, cs.head? = some c → isBlank c = false)
    (hlast : ∀ c, cs.getLast? = some c → isBlank c = false) :
    trim (before ++ cs ++ after) = cs := by
  unfold trim
  rw [List.append_assoc, List.dropWhile_append_of_pos hbefore]
  cases cs with
  | nil =>
    -- nothing but blanks: they are taken off in front
    rw [List.nil_append, List.dropWhile_eq_nil_iff.2 hafter]
    rfl
  | cons c rest =>
    have hc : ¬ isBlank c = true := Bool.eq_false_iff.1 (hhead c rfl)
    rw [List.cons_append, List.dropWhile_cons_of_neg hc, ← List.cons_append]
    exact trimEnd_append_blanks hafter hlast

end FlowBench
