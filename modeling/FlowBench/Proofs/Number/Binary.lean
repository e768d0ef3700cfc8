/-
  FlowBench.Proofs.Number.Binary
  ──────────────────────────────
  **Numbers that a format holds are not rounded.**

  A format holds `m · 2^q` if `m` has one digit more than its fraction, or
  fewer at its smallest scale.  Such a pair has one pattern, which decodes to
  the pair again, and a fraction of naturals that is worth `m · 2^q` is
  rounded to that pattern: of the two scales that `ofRatio` tries, the one it
  settles on is `q`.

  A single-precision number is held in double precision with its digits moved
  to the left, so widening is exact, and narrowing undoes it.
-/
import Mathlib.Algebra.Order.Field.Power
import Mathlib.Data.Rat.Cast.Order
import Mathlib.Tactic.FieldSimp
import Mathlib.Tactic.Linarith
import Mathlib.Tactic.Positivity
import Mathlib.Tactic.Ring
import FlowBench.Number.Binary

namespace FlowBench

/-! ## §1. Pairs and their patterns. -/

namespace BinaryFormat

variable {f : BinaryFormat} {m : Nat} {q : Int}

/-- `m · 2^q` as a format holds it. -/
structure Holds (f : BinaryFormat) (m : Nat) (q : Int) : Prop where
  scale : f.minScale ≤ q
  digits : m < 2 ^ (f.fraction + 1)
  /-- No digit is given away, except where there is no smaller scale. -/
  full : 2 ^ f.fraction ≤ m ∨ q = f.minScale

/-- The magnitude pattern of `m · 2^q`. -/
def pattern (f : BinaryFormat) (m : Nat) (q : Int) : Nat :=
  (q - f.minScale).toNat * 2 ^ f.fraction + m

end BinaryFormat

namespace Binary

variable {f : BinaryFormat} {m : Nat} {q : Int}

/-- What is written as a pattern is read back. -/
theorem decode_pattern (negative : Bool) (h : f.Holds m q) (hlt : f.pattern m q < f.infinity) :
    (⟨negative, f.pattern m q⟩ : Binary f).decode = .finite m q := by
  have hpos : 0 < 2 ^ f.fraction := Nat.two_pow_pos _
  unfold decode
  simp only [Nat.pow_eq]
  rw [if_neg (Nat.ne_of_lt hlt), if_neg (Nat.lt_asymm hlt)]
  by_cases hm : 2 ^ f.fraction ≤ m
  · -- the leading digit goes over into the exponent
    have hr : m - 2 ^ f.fraction < 2 ^ f.fraction := by
      have := h.digits
      rw [Nat.pow_succ] at this
      omega
    have hsplit : f.pattern m q
        = (m - 2 ^ f.fraction) + 2 ^ f.fraction * ((q - f.minScale).toNat + 1) := by
      unfold BinaryFormat.pattern
      rw [Nat.mul_add, Nat.mul_one, Nat.mul_comm (2 ^ f.fraction)]
      omega
    rw [hsplit, Nat.add_mul_div_left _ _ hpos, Nat.div_eq_of_lt hr, Nat.add_mul_mod_self_left,
      Nat.mod_eq_of_lt hr, if_neg (by omega)]
    have hscale := h.scale
    congr 1 <;> omega
  · have hq : q = f.minScale := h.full.resolve_left hm
    have hflat : f.pattern m q = m := by simp [BinaryFormat.pattern, hq]
    rw [hflat, Nat.div_eq_of_lt (Nat.lt_of_not_le hm), Nat.mod_eq_of_lt (Nat.lt_of_not_le hm),
      if_pos rfl, hq]

/-- Every pattern is that of a pair that the format holds. -/
theorem exists_pattern (x : Binary f) : ∃ m q, f.Holds m q ∧ x.magnitude = f.pattern m q := by
  have hpos : 0 < 2 ^ f.fraction := Nat.two_pow_pos _
  have hmod := Nat.mod_lt x.magnitude hpos
  have hdiv := Nat.div_add_mod x.magnitude (2 ^ f.fraction)
  rcases Nat.eq_zero_or_pos (x.magnitude / 2 ^ f.fraction) with he | he
  · refine ⟨x.magnitude % 2 ^ f.fraction, f.minScale, ⟨Int.le_refl _, ?_, .inr rfl⟩, ?_⟩
    · rw [Nat.pow_succ]
      omega
    · rw [he, Nat.mul_zero] at hdiv
      simp only [BinaryFormat.pattern, Int.sub_self, Int.toNat_zero]
      omega
  · refine ⟨x.magnitude % 2 ^ f.fraction + 2 ^ f.fraction,
      f.minScale + (x.magnitude / 2 ^ f.fraction : Nat) - 1, ⟨by omega, ?_, .inl (by omega)⟩, ?_⟩
    · rw [Nat.pow_succ]
      omega
    · have hscale : (f.minScale + ((x.magnitude / 2 ^ f.fraction : Nat) : Int) - 1
          - f.minScale).toNat + 1 = x.magnitude / 2 ^ f.fraction := by omega
      rw [← hscale, Nat.mul_add, Nat.mul_one, Nat.mul_comm] at hdiv
      unfold BinaryFormat.pattern
      omega

end Binary

/-! ## §2. Rounding what is held. -/

namespace BinaryFormat

/-- A numerator and a denominator, counted at a scale. -/
def numeratorAt (num : Nat) (q : Int) : Nat := if q < 0 then num * Nat.pow 2 (-q).toNat else num
def denominatorAt (den : Nat) (q : Int) : Nat := if q < 0 then den else den * Nat.pow 2 q.toNat

/-- The scale that is tried first. -/
def firstScale (f : BinaryFormat) (num den : Nat) : Int :=
  max ((num.log2 : Int) - den.log2 - 1 - f.fraction) f.minScale

/-- The scale at which a fraction is rounded. -/
def scaleOf (f : BinaryFormat) (num den : Nat) : Int :=
  let q := f.firstScale num den
  if Nat.pow 2 (f.fraction + 1) ≤ numeratorAt num q / denominatorAt den q then q + 1 else q

variable {f : BinaryFormat} {num den m : Nat} {q : Int}

theorem ofRatio_eq (hnum : num ≠ 0) (hden : den ≠ 0) :
    f.ofRatio num den = min ((f.scaleOf num den - f.minScale).toNat * 2 ^ f.fraction
      + roundHalfEven (numeratorAt num (f.scaleOf num den)) (denominatorAt den (f.scaleOf num den)))
        f.infinity := by
  unfold ofRatio
  rw [if_neg (not_or.2 ⟨hnum, hden⟩)]
  rfl

theorem denominatorAt_pos (hden : den ≠ 0) (q : Int) : 0 < denominatorAt den q := by
  unfold denominatorAt
  have hpos : 0 < den := Nat.pos_of_ne_zero hden
  split
  · exact hpos
  · exact Nat.mul_pos hpos (Nat.two_pow_pos _)

/-- Counting at a scale divides by its power of two. -/
theorem numeratorAt_div_denominatorAt (num den : Nat) (q : Int) :
    (numeratorAt num q : ℚ) / denominatorAt den q = (num : ℚ) / den / 2 ^ q := by
  unfold numeratorAt denominatorAt
  simp only [Nat.pow_eq]
  split
  case isTrue hq =>
    obtain ⟨n, rfl⟩ : ∃ n : Nat, q = -n := ⟨(-q).toNat, by omega⟩
    rw [Int.neg_neg, Int.toNat_natCast, zpow_neg, zpow_natCast]
    push_cast
    field_simp
  case isFalse hq =>
    obtain ⟨n, rfl⟩ : ∃ n : Nat, q = n := ⟨q.toNat, by omega⟩
    rw [Int.toNat_natCast, zpow_natCast]
    push_cast
    field_simp

/-- A fraction that is `c` times the power of a scale counts `c` there. -/
theorem numeratorAt_eq (hden : den ≠ 0) {c : Nat} (h : (num : ℚ) / den = c * 2 ^ q) :
    numeratorAt num q = c * denominatorAt den q := by
  have hpos : (denominatorAt den q : ℚ) ≠ 0 := by
    exact_mod_cast (denominatorAt_pos hden q).ne'
  have hdiv := numeratorAt_div_denominatorAt num den q
  rw [h, mul_div_assoc, div_self (by positivity), mul_one, div_eq_iff hpos] at hdiv
  exact_mod_cast hdiv

/-- The digits of numerator and denominator tell a fraction up to a factor of
two on either side. -/
theorem two_zpow_lt_ratio (hnum : num ≠ 0) (hden : den ≠ 0) :
    (2 : ℚ) ^ ((num.log2 : Int) - den.log2 - 1) < (num : ℚ) / den
      ∧ (num : ℚ) / den < 2 ^ ((num.log2 : Int) - den.log2 + 1) := by
  have hden' : (0 : ℚ) < den := by exact_mod_cast Nat.pos_of_ne_zero hden
  have hn₁ : (2 : ℚ) ^ num.log2 ≤ num := by exact_mod_cast Nat.log2_self_le hnum
  have hn₂ : (num : ℚ) < 2 ^ (num.log2 + 1) := by exact_mod_cast Nat.lt_log2_self
  have hd₁ : (2 : ℚ) ^ den.log2 ≤ den := by exact_mod_cast Nat.log2_self_le hden
  have hd₂ : (den : ℚ) < 2 ^ (den.log2 + 1) := by exact_mod_cast Nat.lt_log2_self
  constructor
  · rw [lt_div_iff₀ hden']
    calc (2 : ℚ) ^ ((num.log2 : Int) - den.log2 - 1) * den
        < 2 ^ ((num.log2 : Int) - den.log2 - 1) * 2 ^ (den.log2 + 1) := by gcongr
      _ = 2 ^ num.log2 := by
          rw [← zpow_natCast, ← zpow_add₀ two_ne_zero, ← zpow_natCast]
          congr 1
          push_cast
          ring
      _ ≤ num := hn₁
  · rw [div_lt_iff₀ hden']
    calc (num : ℚ) < 2 ^ (num.log2 + 1) := hn₂
      _ = 2 ^ ((num.log2 : Int) - den.log2 + 1) * 2 ^ den.log2 := by
          rw [← zpow_natCast, ← zpow_natCast, ← zpow_add₀ two_ne_zero]
          congr 1
          push_cast
          ring
      _ ≤ 2 ^ ((num.log2 : Int) - den.log2 + 1) * den := by gcongr

/-- A fraction that the format holds is rounded at its own scale. -/
theorem scaleOf_eq (h : f.Holds m q) (hnum : num ≠ 0) (hden : den ≠ 0)
    (heq : (num : ℚ) / den = m * 2 ^ q) : f.scaleOf num den = q := by
  obtain ⟨hlow, hhigh⟩ := two_zpow_lt_ratio hnum hden
  have hcount (c : Nat) (t : Int) (ht : (m : ℚ) * 2 ^ q = c * 2 ^ t) :
      numeratorAt num t / denominatorAt den t = c := by
    rw [numeratorAt_eq hden (heq.trans ht), Nat.mul_div_cancel _ (denominatorAt_pos hden t)]
  have hle : f.firstScale num den ≤ q := by
    have hdigits : (m : ℚ) * 2 ^ q < 2 ^ ((f.fraction : Int) + 1 + q) := by
      rw [zpow_add₀ two_ne_zero]
      have : (m : ℚ) < 2 ^ ((f.fraction : Int) + 1) := by exact_mod_cast h.digits
      gcongr
    have hlt := (zpow_lt_zpow_iff_right₀ (one_lt_two (α := ℚ))).1
      (hlow.trans (heq.trans_lt hdigits))
    exact max_le (by omega) h.scale
  have hge : f.firstScale num den = q ∨ (f.firstScale num den + 1 = q ∧ 2 ^ f.fraction ≤ m) := by
    rcases h.full with hfull | hmin
    · have hdigits : (2 : ℚ) ^ ((f.fraction : Int) + q) ≤ m * 2 ^ q := by
        rw [zpow_add₀ two_ne_zero]
        have : (2 : ℚ) ^ (f.fraction : Int) ≤ m := by exact_mod_cast hfull
        gcongr
      have hlt := (zpow_lt_zpow_iff_right₀ (one_lt_two (α := ℚ))).1
        (hdigits.trans_lt (heq.symm.trans_lt hhigh))
      have hfirst : (num.log2 : Int) - den.log2 - 1 - f.fraction ≤ f.firstScale num den :=
        le_max_left _ _
      by_cases hq : f.firstScale num den = q
      · exact .inl hq
      · exact .inr ⟨by omega, hfull⟩
    · have hfirst : f.minScale ≤ f.firstScale num den := le_max_right _ _
      exact .inl (by omega)
  unfold scaleOf
  rcases hge with hq | ⟨hq, hfull⟩
  · simp only [hq, hcount m q rfl, Nat.pow_eq]
    rw [if_neg (Nat.not_le_of_lt h.digits)]
  · -- one scale below, the count is twice as large and has a digit too many
    have hdouble : (m : ℚ) * 2 ^ q = ((2 * m : Nat) : ℚ) * 2 ^ (f.firstScale num den) := by
      rw [← hq, zpow_add_one₀ two_ne_zero]
      push_cast
      ring
    simp only [hcount _ _ hdouble, Nat.pow_eq]
    rw [if_pos (by rw [Nat.pow_succ]; omega), hq]

theorem roundHalfEven_mul {c : Nat} (hden : 0 < den) : roundHalfEven (c * den) den = c := by
  unfold roundHalfEven
  simp only [Nat.mul_mod_left, Nat.mul_div_cancel _ hden]
  rw [if_neg (by omega)]

/-- A fraction that the format holds has the pattern of its pair. -/
theorem ofRatio_exact (h : f.Holds m q) (hm : m ≠ 0) (hden : den ≠ 0)
    (heq : (num : ℚ) / den = m * 2 ^ q) : f.ofRatio num den = min (f.pattern m q) f.infinity := by
  have hnum : num ≠ 0 := by
    rintro rfl
    rw [Nat.cast_zero, zero_div, eq_comm, mul_eq_zero] at heq
    exact heq.elim (by exact_mod_cast hm) (by positivity)
  rw [ofRatio_eq hnum hden, scaleOf_eq h hnum hden heq, numeratorAt_eq hden heq,
    roundHalfEven_mul (denominatorAt_pos hden q), pattern]

end BinaryFormat

/-! ## §3. Changing the format. -/

namespace Binary

variable {f g : BinaryFormat} {m n : Nat} {q p : Int}

theorem ratio_ne_zero (m : Nat) (q : Int) : (ratio m q).2 ≠ 0 := by
  unfold ratio
  split
  · exact (Nat.two_pow_pos _).ne'
  · exact one_ne_zero

/-- The fraction of `m · 2^q` is worth as much. -/
theorem ratio_value (m : Nat) (q : Int) : ((ratio m q).1 : ℚ) / (ratio m q).2 = m * 2 ^ q := by
  unfold ratio
  split
  case isTrue hq =>
    obtain ⟨n, rfl⟩ : ∃ n : Nat, q = -n := ⟨(-q).toNat, by omega⟩
    rw [Int.neg_neg, Int.toNat_natCast, zpow_neg, zpow_natCast, Nat.pow_eq]
    push_cast
    rw [div_eq_mul_inv]
  case isFalse hq =>
    obtain ⟨n, rfl⟩ : ∃ n : Nat, q = n := ⟨q.toNat, by omega⟩
    rw [Int.toNat_natCast, zpow_natCast, Nat.pow_eq]
    push_cast
    rw [div_one]

/-- A number that both formats hold goes over from one to the other. -/
theorem convert_pattern (negative : Bool) (hf : f.Holds m q) (hg : g.Holds n p) (hn : n ≠ 0)
    (heq : (m : ℚ) * 2 ^ q = n * 2 ^ p) (hflt : f.pattern m q < f.infinity)
    (hglt : g.pattern n p < g.infinity) :
    ((⟨negative, f.pattern m q⟩ : Binary f).convert : Binary g) = ⟨negative, g.pattern n p⟩ := by
  unfold convert
  simp only [decode_pattern negative hf hflt]
  unfold ofRatio
  rw [BinaryFormat.ofRatio_exact hg hn (ratio_ne_zero m q) ((ratio_value m q).trans heq),
    min_eq_left (Nat.le_of_lt hglt)]

theorem convert_zero (negative : Bool) (hf : 0 < f.infinity) :
    ((⟨negative, 0⟩ : Binary f).convert : Binary g) = ⟨negative, 0⟩ := by
  have hdecode : (⟨negative, 0⟩ : Binary f).decode = .finite 0 f.minScale := by
    unfold decode
    simp [Nat.ne_of_lt hf]
  unfold convert
  simp only [hdecode, ofRatio, Binary.mk.injEq, true_and]
  unfold BinaryFormat.ofRatio
  exact if_pos (.inl (by unfold ratio; split <;> simp))

/-- What is no number stays none. -/
theorem convert_not_finite {x : Binary f} (hx : x.isFinite = false) :
    (x.convert : Binary g).isFinite = false := by
  have hle : f.infinity ≤ x.magnitude := Nat.le_of_not_lt (of_decide_eq_false hx)
  unfold convert
  rcases Nat.eq_or_lt_of_le hle with heq | hlt
  · have hdecode : x.decode = .infinite := by
      unfold decode
      exact if_pos heq.symm
    simp [hdecode, infinite, isFinite]
  · have hdecode : x.decode = .nan := by
      unfold decode
      simp [hlt, Nat.ne_of_gt hlt]
    simp [hdecode, nan, isFinite]

theorem binary32_minScale : binary32.minScale = -149 := rfl
theorem binary64_minScale : binary64.minScale = -1074 := rfl
theorem binary32_infinity : binary32.infinity = 255 * 2 ^ 23 := rfl
theorem binary64_infinity : binary64.infinity = 2047 * 2 ^ 52 := rfl

theorem binary32_pattern (m : Nat) (q : Int) :
    binary32.pattern m q = (q + 149).toNat * 2 ^ 23 + m := by
  rw [BinaryFormat.pattern, binary32_minScale, sub_neg_eq_add]
  rfl

theorem binary64_pattern (m : Nat) (q : Int) :
    binary64.pattern m q = (q + 1074).toNat * 2 ^ 52 + m := by
  rw [BinaryFormat.pattern, binary64_minScale, sub_neg_eq_add]
  rfl

/-- Double precision holds every single-precision number, with its leading
digit moved to the front. -/
theorem holds_binary64 (h : binary32.Holds m q) (hm : m ≠ 0) :
    binary64.Holds (m * 2 ^ (52 - m.log2)) (q - (52 - m.log2 : Nat)) := by
  have hlog : m.log2 < 24 := (Nat.log2_lt hm).2 h.digits
  have hlow : 2 ^ m.log2 ≤ m := Nat.log2_self_le hm
  have hhigh : m < 2 ^ (m.log2 + 1) := Nat.lt_log2_self
  have hscale : -149 ≤ q := h.scale
  have hpow : 2 ^ m.log2 * 2 ^ (52 - m.log2) = 2 ^ 52 := by
    rw [← Nat.pow_add]
    congr 1
    omega
  refine ⟨?_, ?_, .inl ?_⟩
  · rw [binary64_minScale]
    omega
  · show _ < 2 ^ 53
    rw [Nat.pow_succ] at hhigh
    calc m * 2 ^ (52 - m.log2) < 2 ^ m.log2 * 2 * 2 ^ (52 - m.log2) :=
          Nat.mul_lt_mul_of_pos_right hhigh (Nat.two_pow_pos _)
      _ = 2 ^ 53 := by rw [Nat.mul_right_comm, hpow, ← Nat.pow_succ]
  · show 2 ^ 52 ≤ _
    rw [← hpow]
    exact Nat.mul_le_mul_right _ hlow

/-- Widening a single-precision number gives a number, and narrowing gives
the single-precision number back. -/
theorem widen_exact {x : Binary32} (hx : x.isFinite = true) :
    (x.convert : Binary64).isFinite = true ∧ ((x.convert : Binary64).convert : Binary32) = x := by
  obtain ⟨negative, magnitude⟩ := x
  obtain ⟨m, q, hheld, hmag⟩ := exists_pattern (⟨negative, magnitude⟩ : Binary32)
  have hlt : binary32.pattern m q < binary32.infinity := by
    rw [← hmag]
    exact of_decide_eq_true hx
  simp only at hmag
  subst hmag
  by_cases hm : m = 0
  · -- a zero is at the smallest scale
    subst hm
    have hzero : binary32.pattern 0 q = 0 := by
      have hq : q = binary32.minScale := hheld.full.resolve_left (by decide)
      simp [BinaryFormat.pattern, hq]
    rw [hzero, convert_zero negative (by decide), convert_zero negative (by decide)]
    exact ⟨rfl, rfl⟩
  · have hheld' := holds_binary64 hheld hm
    have heq : (m : ℚ) * 2 ^ q
        = ((m * 2 ^ (52 - m.log2) : Nat) : ℚ) * 2 ^ (q - (52 - m.log2 : Nat)) := by
      rw [zpow_sub₀ two_ne_zero, zpow_natCast]
      push_cast
      field_simp
    have hlt' : binary64.pattern (m * 2 ^ (52 - m.log2)) (q - (52 - m.log2 : Nat))
        < binary64.infinity := by
      have hdigits : m * 2 ^ (52 - m.log2) < 2 ^ 53 := hheld'.digits
      rw [binary32_pattern, binary32_infinity] at hlt
      rw [binary64_pattern, binary64_infinity]
      have hscale : (q - (52 - m.log2 : Nat) + 1074).toNat ≤ 1179 := by omega
      calc (q - (52 - m.log2 : Nat) + 1074).toNat * 2 ^ 52 + m * 2 ^ (52 - m.log2)
          < 1179 * 2 ^ 52 + 2 ^ 53 := Nat.add_lt_add_of_le_of_lt (Nat.mul_le_mul_right _ hscale) hdigits
        _ ≤ 2047 * 2 ^ 52 := by norm_num
    have hm' : m * 2 ^ (52 - m.log2) ≠ 0 := Nat.mul_ne_zero hm (Nat.two_pow_pos _).ne'
    rw [convert_pattern negative hheld hheld' hm' heq hlt hlt',
      convert_pattern negative hheld' hheld hm heq.symm hlt' hlt]
    exact ⟨decide_eq_true hlt', rfl⟩

end Binary

end FlowBench
