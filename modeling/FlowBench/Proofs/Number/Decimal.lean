/-
  FlowBench.Proofs.Number.Decimal
  ───────────────────────────────
  **Numerals of at most 64 bits are scaled to numbers.**

  Rounding and decoding lose little: what is smaller than a power of two is
  rounded to less than 32 times that power.  Each division by `10^308` makes up
  for this, so on the way down a numeral stays below `2^70`, however many
  divisions there are, and the last one cannot leave the numbers either.
-/
import FlowBench.Number.Decimal
import FlowBench.Proofs.Number.Binary

namespace FlowBench

/-! ## §1. What rounding loses. -/

namespace BinaryFormat

theorem roundHalfEven_le (num den : Nat) : roundHalfEven num den ≤ num / den + 1 := by
  unfold roundHalfEven
  dsimp only
  split <;> omega

/-- A fraction below a power of two has a pattern in proportion. -/
theorem ofRatio_le {num den : Nat} {k : Int} (hden : den ≠ 0) (hk : -1000 ≤ k)
    (h : (num : ℚ) / den < 2 ^ k) : binary64.ofRatio num den ≤ (k + 1027).toNat * 2 ^ 52 := by
  by_cases hnum : num = 0
  · subst hnum
    rw [ofRatio, if_pos (.inl rfl)]
    exact Nat.zero_le _
  · obtain ⟨hlow, hhigh⟩ := two_zpow_lt_ratio hnum hden
    have hlog : (num.log2 : Int) - den.log2 - 1 < k :=
      (zpow_lt_zpow_iff_right₀ (one_lt_two (α := ℚ))).1 (hlow.trans h)
    have hfirst : binary64.firstScale num den =
        max ((num.log2 : Int) - den.log2 - 1 - 52) (-1074) := rfl
    have hq : binary64.scaleOf num den ≤ k - 52 ∧
        (num.log2 : Int) - den.log2 - 53 ≤ binary64.scaleOf num den := by
      unfold scaleOf
      dsimp only
      split <;> omega
    rw [ofRatio_eq hnum hden]
    generalize binary64.scaleOf num den = q at hq ⊢
    -- the scale is that of 53 digits or one place off
    have hcount : numeratorAt num q / denominatorAt den q < 2 ^ 54 := by
      have hpos : (0 : ℚ) < denominatorAt den q := by exact_mod_cast denominatorAt_pos hden q
      have hlt : (numeratorAt num q : ℚ) / denominatorAt den q < 2 ^ 54 := by
        rw [numeratorAt_div_denominatorAt, div_lt_iff₀ (by positivity)]
        calc (num : ℚ) / den < 2 ^ ((num.log2 : Int) - den.log2 + 1) := hhigh
          _ ≤ 2 ^ ((54 : Int) + q) := zpow_le_zpow_right₀ one_le_two (by omega)
          _ = 2 ^ 54 * 2 ^ q := by rw [zpow_add₀ two_ne_zero]; rfl
      rw [div_lt_iff₀ hpos] at hlt
      exact (Nat.div_lt_iff_lt_mul (denominatorAt_pos hden q)).2 (by exact_mod_cast hlt)
    have hround := roundHalfEven_le (numeratorAt num q) (denominatorAt den q)
    refine (Nat.min_le_left _ _).trans ?_
    show (q - -1074).toNat * 2 ^ 52 + _ ≤ _
    omega

end BinaryFormat

namespace Binary

/-- A double is a number below a power of two. -/
def Below (x : Binary64) (k : Int) : Prop := ∃ m q, x.decode = .finite m q ∧ (m : ℚ) * 2 ^ q < 2 ^ k

variable {x : Binary64} {k : Int}

theorem isFinite_of_decode {m : Nat} {q : Int} (h : x.decode = .finite m q) :
    x.isFinite = true := by
  unfold decode at h
  dsimp only at h
  unfold isFinite
  split at h
  · cases h
  · split at h
    · cases h
    · exact decide_eq_true (by omega)

theorem Below.isFinite (h : x.Below k) : x.isFinite = true := by
  obtain ⟨m, q, hdecode, -⟩ := h
  exact isFinite_of_decode hdecode

/-- A small pattern is that of a small number. -/
theorem below_of_magnitude_le (hlow : -1000 ≤ k) (hhigh : k ≤ 1000)
    (h : x.magnitude ≤ (k + 1027).toNat * 2 ^ 52) :
    x.Below (k + 6) := by
  obtain ⟨m, q, hheld, hpattern⟩ := exists_pattern x
  have hlt : binary64.pattern m q < binary64.infinity := by
    rw [← hpattern, binary64_infinity]
    omega
  have hdecode := decode_pattern x.negative hheld hlt
  rw [← hpattern] at hdecode
  refine ⟨m, q, hdecode, ?_⟩
  have hdigits : (m : ℚ) < 2 ^ 53 := by exact_mod_cast hheld.digits
  have hscale : -1074 ≤ q := hheld.scale
  rw [hpattern, binary64_pattern] at h
  have hq : q ≤ k - 47 := by omega
  calc (m : ℚ) * 2 ^ q < 2 ^ 53 * 2 ^ q := by gcongr
    _ = 2 ^ ((53 : Int) + q) := by rw [zpow_add₀ two_ne_zero]; rfl
    _ ≤ 2 ^ (k + 6) := zpow_le_zpow_right₀ one_le_two (by omega)

/-- What is below a power of two is rounded to little more. -/
theorem below_ofRatio (negative : Bool) {num den : Nat} (hden : den ≠ 0) (hlow : -1000 ≤ k)
    (hhigh : k ≤ 1000) (h : (num : ℚ) / den < 2 ^ k) :
    (ofRatio negative num den : Binary64).Below (k + 6) :=
  below_of_magnitude_le hlow hhigh (BinaryFormat.ofRatio_le hden hlow h)

/-! ## §2. Dividing by powers of ten. -/

/-- Whether a magnitude is at least a natural. -/
def reaches (least : Nat) : Magnitude → Bool
  | .finite m q => least * (ratio m q).2 ≤ (ratio m q).1
  | _ => false

/-- A power of ten, rounded. -/
def ten (power : Nat) : Binary64 := ofRatio false (Nat.pow 10 power) 1

theorem reaches_ten : ∀ power < 309, reaches 1 (ten power).decode = true := by decide +kernel

theorem reaches_last_ten : reaches (2 ^ 6) (ten 308).decode = true := by decide +kernel

/-- A quotient is below a power of two by as much more as its divisor
reaches. -/
theorem quotient_lt {m n j : Nat} {q p : Int} (hx : (m : ℚ) * 2 ^ q < 2 ^ k)
    (hreach : 2 ^ j * (ratio n p).2 ≤ (ratio n p).1) :
    (((ratio m q).1 * (ratio n p).2 : Nat) : ℚ) / ((ratio m q).2 * (ratio n p).1 : Nat)
      < 2 ^ (k - j) := by
  have hpos₁ : (0 : ℚ) < (ratio m q).2 := by exact_mod_cast Nat.pos_of_ne_zero (ratio_ne_zero m q)
  have hpos₂ : (0 : ℚ) < (ratio n p).2 := by exact_mod_cast Nat.pos_of_ne_zero (ratio_ne_zero n p)
  have hreach' : (2 : ℚ) ^ j * (ratio n p).2 ≤ (ratio n p).1 := by exact_mod_cast hreach
  have hpos₃ : (0 : ℚ) < (ratio n p).1 := lt_of_lt_of_le (by positivity) hreach'
  rw [← ratio_value, div_lt_iff₀ hpos₁] at hx
  push_cast
  rw [zpow_sub₀ two_ne_zero, zpow_natCast, div_lt_div_iff₀ (by positivity) (by positivity)]
  calc ((ratio m q).1 : ℚ) * (ratio n p).2 * 2 ^ j
      = (ratio m q).1 * (2 ^ j * (ratio n p).2) := by ring
    _ ≤ (ratio m q).1 * (ratio n p).1 := by gcongr
    _ < 2 ^ k * (ratio m q).2 * (ratio n p).1 := by gcongr
    _ = 2 ^ k * ((ratio m q).2 * (ratio n p).1) := by ring

/-- Dividing makes a double smaller by what the power of ten reaches. -/
theorem Below.scaleByTen (hx : x.Below k) {power j : Nat}
    (hten : reaches (2 ^ j) (ten power).decode = true) (hlow : -1000 ≤ k - j)
    (hhigh : k - j ≤ 1000) : (x.scaleByTen power false).Below (k - j + 6) := by
  obtain ⟨m, q, hdecode, hlt⟩ := hx
  unfold ten at hten
  cases hdecode' : (ofRatio false (Nat.pow 10 power) 1 : Binary64).decode with
  | finite n p =>
    rw [hdecode'] at hten
    have hreach : 2 ^ j * (ratio n p).2 ≤ (ratio n p).1 := of_decide_eq_true hten
    have hden : (ratio m q).2 * (ratio n p).1 ≠ 0 := by
      refine Nat.mul_ne_zero (ratio_ne_zero m q) fun hzero => ?_
      rw [hzero, Nat.le_zero, Nat.mul_eq_zero] at hreach
      exact hreach.elim (Nat.two_pow_pos j).ne' (ratio_ne_zero n p)
    have hplan : x.scaleByTen power false = ofRatio x.negative ((ratio m q).1 * (ratio n p).2)
        ((ratio m q).2 * (ratio n p).1) := by
      simp only [Binary.scaleByTen, hdecode, hdecode', Bool.false_eq_true, if_false]
    rw [hplan]
    exact below_ofRatio _ hden hlow hhigh (quotient_lt hlt hreach)
  | _ =>
    rw [hdecode'] at hten
    cases hten

end Binary

namespace Decimal

open Binary

/-- On the way down a double stays below `2^70`, and ends as a number. -/
theorem isFinite_down : ∀ (steps : Nat) {x : Binary64} (power : Nat), x.Below 70 →
    (scaled.down steps x power).isFinite = true
  | 0, _, _, hx => hx.isFinite
  | steps + 1, x, power, hx => by
    unfold scaled.down
    split
    · next hpower =>
      -- the last divisor may be as small as one, but nothing is divided behind it
      exact (hx.scaleByTen (j := 0) (reaches_ten power (by omega)) (by decide) (by decide)).isFinite
    · split
      · exact hx.isFinite
      · -- `10^308` takes away at least the six places that rounding may add
        exact isFinite_down steps (power - 308)
          (hx.scaleByTen (j := 6) reaches_last_ten (by decide) (by decide))

/-- **A numeral whose digits fit 64 bits is scaled to a number, if to
anything.** -/
theorem isFinite_of_scaled {d : Decimal} (hdigits : d.digits < 2 ^ 64) {x : Binary64}
    (h : d.scaled = some x) : x.isFinite = true := by
  have hstart : (ofRatio d.negative d.digits 1 : Binary64).Below 70 := by
    refine below_ofRatio (k := 64) d.negative one_ne_zero (by decide) (by decide) ?_
    rw [Nat.cast_one, div_one]
    exact_mod_cast hdigits
  unfold scaled at h
  dsimp only at h
  split at h
  · cases h
    exact hstart.isFinite
  · split at h
    · split at h
      · cases h
      · split at h
        · next hfinite =>
          cases h
          exact hfinite
        · cases h
    · cases h
      exact isFinite_down _ _ hstart

end Decimal

end FlowBench
