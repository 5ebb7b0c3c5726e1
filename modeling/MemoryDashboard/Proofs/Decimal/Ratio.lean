import MemoryDashboard.Decimal.Basic
import Mathlib

/-! # Fractions, decimals and their values

The reader and the writer of floats compute with fractions of naturals and with decimals, never
with real numbers. Here each gets its value in `ℚ`: a fraction `(n, d)` is `n / d`
(`ratio`), a decimal is `digits * 10 ^ exponent` (`Decimal.value`). The comparisons of
fractions by cross-multiplication are the order of their values (`ratioLe_iff`,
`ratioLt_iff`), `scaledRatio a base e` is `a * base ^ e` (`ratio_scaledRatio`), removing
trailing zeros keeps a decimal's value (`value_trim`), and the digit count of a positive number
brackets it between powers of ten (`digitCount_bounds`).
-/

namespace MemoryDashboard.Decimal

/-- The value of a fraction of naturals. -/
def ratio (p : Nat × Nat) : ℚ := p.1 / p.2

/-- The value of a decimal. -/
def value (d : Decimal) : ℚ := d.digits * 10 ^ d.exponent

theorem ratioLe_iff {x y : Nat × Nat} (hx : 0 < x.2) (hy : 0 < y.2) :
    ratioLe x y = true ↔ ratio x ≤ ratio y := by
  have hx' : (0 : ℚ) < x.2 := by exact_mod_cast hx
  have hy' : (0 : ℚ) < y.2 := by exact_mod_cast hy
  rw [ratioLe, decide_eq_true_iff, ratio, ratio, div_le_div_iff₀ hx' hy']
  exact_mod_cast Iff.rfl

theorem ratioLt_iff {x y : Nat × Nat} (hx : 0 < x.2) (hy : 0 < y.2) :
    ratioLt x y = true ↔ ratio x < ratio y := by
  have hx' : (0 : ℚ) < x.2 := by exact_mod_cast hx
  have hy' : (0 : ℚ) < y.2 := by exact_mod_cast hy
  rw [ratioLt, decide_eq_true_iff, ratio, ratio, div_lt_div_iff₀ hx' hy']
  exact_mod_cast Iff.rfl

/-- A power to a non-negative integer is the power to its natural. -/
theorem zpow_of_nonneg (x : ℚ) {e : Int} (nonneg : 0 ≤ e) : x ^ e = x ^ e.toNat := by
  rw [← zpow_natCast, Int.toNat_of_nonneg nonneg]

/-- A power to a negative integer is the inverse of the power to its negation. -/
theorem zpow_of_neg (x : ℚ) {e : Int} (neg : ¬0 ≤ e) : x ^ e = (x ^ (-e).toNat)⁻¹ := by
  rw [← zpow_natCast, ← zpow_neg, Int.toNat_of_nonneg (by omega), neg_neg]

theorem scaledRatio_den_pos (a : Nat) {base : Nat} (hb : 0 < base) (e : Int) :
    0 < (scaledRatio a base e).2 := by
  unfold scaledRatio
  split
  · exact Nat.one_pos
  · exact Nat.pow_pos hb

theorem ratio_scaledRatio (a base : Nat) (e : Int) :
    ratio (scaledRatio a base e) = a * (base : ℚ) ^ e := by
  unfold scaledRatio ratio
  split
  · next nonneg =>
    rw [zpow_of_nonneg _ nonneg]
    push_cast [Nat.pow_eq]
    ring
  · next neg =>
    rw [zpow_of_neg _ neg]
    push_cast [Nat.pow_eq]
    ring

theorem ratio_scaledRatio_decimal (d : Decimal) :
    ratio (scaledRatio d.digits 10 d.exponent) = value d := by
  rw [ratio_scaledRatio]
  rfl

/-- Removing trailing zeros keeps the value, and keeps a positive decimal positive. -/
theorem value_trim (d : Decimal) : value (trim d) = value d ∧ (0 < d.digits → 0 < (trim d).digits) := by
  induction d using trim.induct with
  | case1 d trailing ih =>
    rw [trim, if_pos trailing]
    simp only [Bool.and_eq_true, beq_iff_eq, bne_iff_ne, ne_eq] at trailing
    obtain ⟨same, pos⟩ := ih
    refine ⟨?_, fun _ => pos (show 0 < d.digits / 10 by omega)⟩
    rw [same, value, value]
    -- a last digit zero moves into the exponent
    have tens : ((d.digits / 10 : Nat) : ℚ) = d.digits / 10 := by
      rw [Nat.cast_div (Nat.dvd_of_mod_eq_zero trailing.1) (by norm_num)]
      norm_num
    rw [tens, zpow_add₀ (by norm_num)]
    ring
  | case2 d kept =>
    rw [trim, if_neg kept]
    exact ⟨rfl, id⟩

/-- A positive number has `digitCount` digits: it lies between `10 ^ (count - 1)` and
`10 ^ count`. -/
theorem digitCount_bounds {n : Nat} (pos : 0 < n) :
    10 ^ (digitCount n - 1) ≤ n ∧ n < 10 ^ digitCount n := by
  induction n using digitCount.induct with
  | case1 n small =>
    rw [digitCount, if_pos small]
    omega
  | case2 n large ih =>
    rw [digitCount, if_neg large]
    have tens := ih (by omega)
    have count : 1 ≤ digitCount (n / 10) := by
      rw [digitCount]
      split <;> omega
    constructor
    · calc 10 ^ (digitCount (n / 10) + 1 - 1) = 10 ^ (digitCount (n / 10) - 1) * 10 := by
            rw [← Nat.pow_succ]
            congr 1
            omega
        _ ≤ n / 10 * 10 := Nat.mul_le_mul_right 10 tens.1
        _ ≤ n := Nat.div_mul_le_self n 10
    · rw [Nat.pow_succ]
      omega

end MemoryDashboard.Decimal
