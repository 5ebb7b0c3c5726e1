import MemoryDashboard.Decimal.Shortest
import MemoryDashboard.Proofs.Decimal.Bits
import MemoryDashboard.Proofs.Decimal.Ratio
import Mathlib

/-! # Reading a fraction back to the float it came from

Every finite float owns the interval of values that read back to it (`ReadsBack`): within half
a unit of its mantissa, or a quarter below when the float below is closer, the ends counting
when the mantissa is even, as reading rounds a tie to the even mantissa. The interval the
writer searches (`ReadInterval.ofBinary`) is this one (`contains_iff`).

The main result is that reading a fraction in the interval of a finite nonzero float gives that
float (`nearestFloat_of_readsBack`). Reading finds the binary exponent of the fraction
(`floorLog2_bounds`), keeps 53 bits, or fewer below the least exponent, and rounds the rest
half to even (`roundHalfEven_eq`). Inside the interval the bits kept are the float's mantissa,
except just below a power of two, where rounding carries into the next exponent
(`packRounded_carry`).
-/

namespace MemoryDashboard.Decimal

/-! ### The binary exponent of a fraction -/

theorem two_pow_log2_le {n : Nat} (pos : 0 < n) : (2 : ℚ) ^ (n.log2 : Int) ≤ n := by
  rw [zpow_natCast]
  exact_mod_cast Nat.log2_self_le (by omega)

theorem lt_two_pow_log2 (n : Nat) : (n : ℚ) < 2 ^ ((n.log2 : Int) + 1) := by
  rw [← Nat.cast_one, ← Nat.cast_add, zpow_natCast]
  exact_mod_cast Nat.lt_log2_self

/-- `floorLog2` is the binary exponent of a positive fraction. -/
theorem floorLog2_bounds {num den : Nat} (hn : 0 < num) (hd : 0 < den) :
    (2 : ℚ) ^ floorLog2 num den ≤ ratio (num, den) ∧
      ratio (num, den) < 2 ^ (floorLog2 num den + 1) := by
  have hd' : (0 : ℚ) < den := by exact_mod_cast hd
  set guess : Int := (num.log2 : Int) - den.log2
  -- the guess is off by at most one, from the exponents of numerator and denominator
  have above : (2 : ℚ) ^ (guess - 1) < ratio (num, den) := by
    rw [ratio, lt_div_iff₀ hd']
    calc (2 : ℚ) ^ (guess - 1) * den < 2 ^ (guess - 1) * 2 ^ ((den.log2 : Int) + 1) := by
          gcongr
          exact lt_two_pow_log2 den
      _ = 2 ^ (num.log2 : Int) := by
          rw [← zpow_add₀ (by norm_num)]
          congr 1
          omega
      _ ≤ num := two_pow_log2_le hn
  have below : ratio (num, den) < 2 ^ (guess + 1) := by
    rw [ratio, div_lt_iff₀ hd']
    calc (num : ℚ) < 2 ^ ((num.log2 : Int) + 1) := lt_two_pow_log2 num
      _ = 2 ^ (guess + 1) * 2 ^ (den.log2 : Int) := by
          rw [← zpow_add₀ (by norm_num)]
          congr 1
          omega
      _ ≤ 2 ^ (guess + 1) * den := by
          gcongr
          exact two_pow_log2_le hd
  have compared : ratioLe (scaledRatio 1 2 guess) (num, den) = true ↔
      (2 : ℚ) ^ guess ≤ ratio (num, den) := by
    rw [ratioLe_iff (scaledRatio_den_pos 1 (by norm_num) guess) hd, ratio_scaledRatio]
    simp
  unfold floorLog2
  dsimp only
  by_cases reached : (2 : ℚ) ^ guess ≤ ratio (num, den)
  · rw [if_pos (compared.2 reached)]
    exact ⟨reached, below⟩
  · rw [if_neg (mt compared.1 reached), sub_add_cancel]
    exact ⟨above.le, not_le.1 reached⟩

theorem floorLog2_eq {num den : Nat} (hn : 0 < num) (hd : 0 < den) {e : Int}
    (lo : (2 : ℚ) ^ e ≤ ratio (num, den)) (hi : ratio (num, den) < 2 ^ (e + 1)) :
    floorLog2 num den = e := by
  obtain ⟨lo', hi'⟩ := floorLog2_bounds hn hd
  have under : floorLog2 num den < e + 1 :=
    (zpow_lt_zpow_iff_right₀ one_lt_two).1 (lo'.trans_lt hi)
  have exceeds : e < floorLog2 num den + 1 :=
    (zpow_lt_zpow_iff_right₀ one_lt_two).1 (lo.trans_lt hi')
  omega

theorem floorLog2_lt {num den : Nat} (hn : 0 < num) (hd : 0 < den) {e : Int}
    (hi : ratio (num, den) < 2 ^ e) : floorLog2 num den < e :=
  (zpow_lt_zpow_iff_right₀ one_lt_two).1 ((floorLog2_bounds hn hd).1.trans_lt hi)

/-! ### Rounding half to even -/

/-- `roundHalfEven a b` is the natural within half of `a / b`, the even one on a tie. -/
theorem roundHalfEven_eq {a b m : Nat} (hb : 0 < b) (near : |(a : ℚ) / b - m| ≤ 1 / 2)
    (tie : |(a : ℚ) / b - m| = 1 / 2 → m % 2 = 0) : roundHalfEven a b = m := by
  have hb' : (0 : ℚ) < b := by exact_mod_cast hb
  unfold roundHalfEven
  dsimp only
  have split := Nat.div_add_mod a b
  have rest := Nat.mod_lt a hb
  set q := a / b
  set r := a % b
  -- in units of `b`: the remainder's distance to the mantissa `m`
  have whole : (a : ℚ) / b - m = ((q : ℚ) - m) + (r : ℚ) / b := by
    rw [← split]
    push_cast
    field_simp
    ring
  have rest' : (r : ℚ) / b < 1 := (div_lt_one hb').2 (by exact_mod_cast rest)
  have rest0 : (0 : ℚ) ≤ (r : ℚ) / b := by positivity
  have halfway (twice : r * 2 = b) : (r : ℚ) / b = 1 / 2 := by
    rw [div_eq_div_iff hb'.ne' (by norm_num)]
    exact_mod_cast (by omega : r * 2 = 1 * b)
  rw [whole] at near tie
  obtain ⟨lo, hi⟩ := abs_le.1 near
  -- the quotient is the mantissa or one below it
  have upper : (q : ℚ) < m + 1 := by linarith
  have lower : (m : ℚ) < q + 2 := by linarith
  have cases : q = m ∨ q + 1 = m := by
    have upper' : q < m + 1 := by exact_mod_cast upper
    have lower' : m < q + 2 := by exact_mod_cast lower
    omega
  rcases cases with same | below
  · -- the remainder is at most half of `b`, a half only on a tie
    rw [same] at tie hi ⊢
    have half : 2 * r ≤ b := by
      have : (r : ℚ) / b ≤ 1 / 2 := by linarith
      rw [div_le_div_iff₀ hb' (by norm_num)] at this
      exact_mod_cast (by linarith : (2 * r : ℚ) ≤ b)
    split
    · rfl
    · split
      · omega
      · have even := tie (by rw [sub_self, zero_add, halfway (by omega), abs_of_pos (by norm_num)])
        simp [even]
  · -- the remainder is at least half of `b`, a half only on a tie
    rw [← below] at tie lo ⊢
    have half : b ≤ 2 * r := by
      have : 1 / 2 ≤ (r : ℚ) / b := by push_cast at lo; linarith
      rw [div_le_div_iff₀ (by norm_num) hb'] at this
      exact_mod_cast (by linarith : (b : ℚ) ≤ 2 * r)
    split
    · omega
    · split
      · rfl
      · have even := tie (by push_cast; rw [halfway (by omega)]; norm_num)
        have odd : q % 2 = 1 := by omega
        simp [odd]

/-! ### The values that read back as a float -/

/-- The values that read back as the float of exact value `b`, a unit being `2 ^ b.exponent`:
up to half a unit above the mantissa, and half a unit below it, or a quarter when the float
below is closer, the ends included for an even mantissa. -/
def ReadsBack (b : BinaryValue) (v : ℚ) : Prop :=
  let low : ℚ := (b.mantissa - if b.lowerCloser then 1 / 4 else 1 / 2) * 2 ^ b.exponent
  let high : ℚ := (b.mantissa + 1 / 2) * 2 ^ b.exponent
  if b.mantissa % 2 = 0 then low ≤ v ∧ v ≤ high else low < v ∧ v < high

/-- The interval the writer searches is the set of values that read back. -/
theorem contains_iff {b : BinaryValue} (pos : 0 < b.mantissa) {p : Nat × Nat} (hp : 0 < p.2) :
    (ReadInterval.ofBinary b).contains p = true ↔ ReadsBack b (ratio p) := by
  have low : ratio (scaledRatio (if b.lowerCloser then 4 * b.mantissa - 1 else 4 * b.mantissa - 2)
      2 (b.exponent - 2)) =
      (b.mantissa - if b.lowerCloser then 1 / 4 else 1 / 2) * (2 : ℚ) ^ b.exponent := by
    rw [ratio_scaledRatio, zpow_sub₀ (by norm_num)]
    split <;> push_cast [Nat.cast_sub (by omega : 1 ≤ 4 * b.mantissa),
      Nat.cast_sub (by omega : 2 ≤ 4 * b.mantissa)] <;> ring
  have high : ratio (scaledRatio (4 * b.mantissa + 2) 2 (b.exponent - 2)) =
      (b.mantissa + 1 / 2) * (2 : ℚ) ^ b.exponent := by
    rw [ratio_scaledRatio, zpow_sub₀ (by norm_num)]
    push_cast
    ring
  have den (a : Nat) : 0 < (scaledRatio a 2 (b.exponent - 2)).2 :=
    scaledRatio_den_pos a (by norm_num) _
  unfold ReadInterval.contains ReadInterval.ofBinary ReadsBack
  dsimp only
  by_cases even : b.mantissa % 2 = 0
  · rw [if_pos (by simpa using even), if_pos even, Bool.and_eq_true, ratioLe_iff (den _) hp,
      ratioLe_iff hp (den _), low, high]
  · rw [if_neg (by simpa using even), if_neg even, Bool.and_eq_true, ratioLt_iff (den _) hp,
      ratioLt_iff hp (den _), low, high]

/-- A value that reads back is within half a unit of the mantissa, at half a unit only for an
even mantissa. -/
theorem ReadsBack.near {b : BinaryValue} {v : ℚ} (reads : ReadsBack b v) :
    |v / 2 ^ b.exponent - b.mantissa| ≤ 1 / 2 ∧
      (|v / 2 ^ b.exponent - b.mantissa| = 1 / 2 → b.mantissa % 2 = 0) := by
  have unit : (0 : ℚ) < 2 ^ b.exponent := by positivity
  have below : (if b.lowerCloser then (1 : ℚ) / 4 else 1 / 2) ≤ 1 / 2 := by
    split <;> norm_num
  unfold ReadsBack at reads
  dsimp only at reads
  split at reads
  · next even =>
    obtain ⟨lo, hi⟩ := reads
    rw [← div_le_iff₀ unit] at hi
    rw [← le_div_iff₀ unit] at lo
    exact ⟨abs_le.2 ⟨by linarith, by linarith⟩, fun _ => even⟩
  · next odd =>
    obtain ⟨lo, hi⟩ := reads
    rw [← div_lt_iff₀ unit] at hi
    rw [← lt_div_iff₀ unit] at lo
    have strict : |v / 2 ^ b.exponent - b.mantissa| < 1 / 2 :=
      abs_lt.2 ⟨by linarith, by linarith⟩
    exact ⟨strict.le, fun half => absurd half strict.ne⟩

theorem ReadsBack.bounds {b : BinaryValue} {v : ℚ} (reads : ReadsBack b v) :
    (b.mantissa - if b.lowerCloser then 1 / 4 else 1 / 2) * 2 ^ b.exponent ≤ v ∧
      v ≤ (b.mantissa + 1 / 2) * 2 ^ b.exponent := by
  unfold ReadsBack at reads
  dsimp only at reads
  split at reads
  · exact reads
  · exact ⟨reads.1.le, reads.2.le⟩

/-! ### Reading in named steps -/

/-- The exponent of the last bit that reading keeps of a positive fraction: that of the 53rd
bit, or the least exponent. -/
def keptExponent (num den : Nat) : Int := max (floorLog2 num den - 52) (-1074)

/-- A fraction divided by `2 ^ shift`. -/
def scaledBy (num den : Nat) (shift : Int) : Nat × Nat :=
  if 0 ≤ shift then (num, den * Nat.pow 2 shift.toNat) else (num * Nat.pow 2 (-shift).toNat, den)

/-- The float of a rounded mantissa `m` at exponent `shift`: a carry to 54 bits moves into the
exponent, fewer than 53 bits make a subnormal float, and too large an exponent infinity. -/
def packRounded (negative : Bool) (m : Nat) (shift : Int) : Float :=
  let (m, shift) := if m = Nat.pow 2 53 then (Nat.pow 2 52, shift + 1) else (m, shift)
  if m < Nat.pow 2 52 then floatOfFields negative 0 m
  else
    let biased := shift + 1075
    if biased ≥ 2047 then floatOfFields negative 2047 0
    else floatOfFields negative biased.toNat (m - Nat.pow 2 52)

theorem nearestFloat_eq (negative : Bool) {num : Nat} (hnum : num ≠ 0) (den : Nat) :
    nearestFloat negative num den =
      packRounded negative
        (roundHalfEven (scaledBy num den (keptExponent num den)).1
          (scaledBy num den (keptExponent num den)).2)
        (keptExponent num den) := by
  rw [nearestFloat, if_neg hnum]
  rfl

theorem scaledBy_den_pos (num : Nat) {den : Nat} (hd : 0 < den) (shift : Int) :
    0 < (scaledBy num den shift).2 := by
  unfold scaledBy
  split
  · exact Nat.mul_pos hd (Nat.pow_pos (by norm_num))
  · exact hd

theorem ratio_scaledBy (num den : Nat) (shift : Int) :
    ratio (scaledBy num den shift) = ratio (num, den) / 2 ^ shift := by
  unfold scaledBy ratio
  split
  · next nonneg =>
    rw [zpow_of_nonneg _ nonneg]
    push_cast [Nat.pow_eq]
    rw [div_div]
  · next neg =>
    rw [zpow_of_neg _ neg]
    push_cast [Nat.pow_eq]
    field_simp

theorem packRounded_subnormal (negative : Bool) {m : Nat} (small : m < 2 ^ 52) (shift : Int) :
    packRounded negative m shift = floatOfFields negative 0 m := by
  have notCarry : m ≠ Nat.pow 2 53 := by simp [Nat.pow_eq]; omega
  simp only [packRounded, if_neg notCarry]
  rw [if_pos (by simpa [Nat.pow_eq] using small)]

theorem packRounded_normal (negative : Bool) {m : Nat} (lo : 2 ^ 52 ≤ m) (hi : m < 2 ^ 53)
    {shift : Int} (fits : shift + 1075 < 2047) :
    packRounded negative m shift = floatOfFields negative (shift + 1075).toNat (m - 2 ^ 52) := by
  have notCarry : m ≠ Nat.pow 2 53 := by simp [Nat.pow_eq]; omega
  simp only [packRounded, if_neg notCarry]
  rw [if_neg (by simpa [Nat.pow_eq] using lo), if_neg (by omega)]
  rfl

/-- A mantissa rounded up to 54 bits carries into the exponent. -/
theorem packRounded_carry (negative : Bool) {shift : Int} (fits : shift + 1076 < 2047) :
    packRounded negative (2 ^ 53) shift = floatOfFields negative (shift + 1076).toNat 0 := by
  have carry : (2 : Nat) ^ 53 = Nat.pow 2 53 := rfl
  simp only [packRounded, if_pos carry]
  rw [if_neg (lt_irrefl _), if_neg (by omega)]
  congr 2
  omega

/-- Reading at a known kept exponent: the fraction, in units of the last kept bit, rounds to the
mantissa within half a unit, the even one on a tie. -/
theorem nearestFloat_at {num den : Nat} (hn : 0 < num) (hd : 0 < den) {shift : Int}
    (kept : keptExponent num den = shift) {c : Nat}
    (near : |ratio (num, den) / 2 ^ shift - c| ≤ 1 / 2)
    (tie : |ratio (num, den) / 2 ^ shift - c| = 1 / 2 → c % 2 = 0) (negative : Bool) :
    nearestFloat negative num den = packRounded negative c shift := by
  rw [← ratio_scaledBy] at near tie
  rw [nearestFloat_eq negative hn.ne', kept, roundHalfEven_eq (scaledBy_den_pos num hd shift) near tie]

theorem keptExponent_of_bounds {num den : Nat} (hn : 0 < num) (hd : 0 < den) {e : Int}
    (least : -1074 ≤ e) (lo : (2 : ℚ) ^ (e + 52) ≤ ratio (num, den))
    (hi : ratio (num, den) < 2 ^ (e + 53)) : keptExponent num den = e := by
  rw [keptExponent, floorLog2_eq hn hd lo (by rwa [show e + 52 + 1 = e + 53 by ring])]
  omega

theorem keptExponent_of_small {num den : Nat} (hn : 0 < num) (hd : 0 < den)
    (hi : ratio (num, den) < 2 ^ (-1022 : Int)) : keptExponent num den = -1074 := by
  have below := floorLog2_lt hn hd hi
  rw [keptExponent]
  omega

/-! ### A float's exact value from its fields -/

theorem fractionOf_lt (x : Float) : fractionOf x < 2 ^ 52 := Nat.mod_lt _ (by positivity)

theorem ofFloat_subnormal {x : Float} (sub : biasedOf x = 0) :
    BinaryValue.ofFloat x = ⟨signOf x, fractionOf x, -1074, false⟩ := by
  unfold BinaryValue.ofFloat
  rw [if_pos (by simpa [Nat.pow_eq, biasedOf] using sub)]
  rfl

theorem ofFloat_normal {x : Float} (normal : biasedOf x ≠ 0) :
    BinaryValue.ofFloat x = ⟨signOf x, fractionOf x + 2 ^ 52, (biasedOf x : Int) - 1075,
      fractionOf x == 0 && biasedOf x > 1⟩ := by
  unfold BinaryValue.ofFloat
  rw [if_neg (by simpa [Nat.pow_eq, biasedOf] using normal)]
  rfl

end MemoryDashboard.Decimal

namespace MemoryDashboard.BinaryValue

/-- The exact value of a finite nonzero float: a mantissa of one to 53 bits, an exponent between
the least and the greatest, and a closer float below only under a power of two. -/
structure Finite (b : BinaryValue) : Prop where
  pos : 0 < b.mantissa
  lt : b.mantissa < 2 ^ 53
  least : -1074 ≤ b.exponent
  greatest : b.exponent ≤ 971
  closer : b.lowerCloser = true → b.mantissa = 2 ^ 52

end MemoryDashboard.BinaryValue

namespace MemoryDashboard.Decimal

theorem ofFloat_finite {x : Float} (finite : biasedOf x < 2047)
    (nonzero : biasedOf x ≠ 0 ∨ fractionOf x ≠ 0) : (BinaryValue.ofFloat x).Finite := by
  have fraction := fractionOf_lt x
  by_cases sub : biasedOf x = 0
  · rw [ofFloat_subnormal sub]
    have nonzero := nonzero.resolve_left (not_not.2 sub)
    exact ⟨by dsimp only; omega, by dsimp only; omega, le_rfl, by dsimp only; norm_num, by simp⟩
  · rw [ofFloat_normal sub]
    refine ⟨by dsimp only; omega, by dsimp only; omega, by dsimp only; omega, by dsimp only; omega, ?_⟩
    dsimp only
    simp only [Bool.and_eq_true, beq_iff_eq]
    rintro ⟨zero, -⟩
    omega

/-! ### Reading back a float -/

theorem nearestFloat_subnormal {x : Float} (sub : biasedOf x = 0) {num den : Nat} (hn : 0 < num)
    (hd : 0 < den) (reads : ReadsBack ⟨signOf x, fractionOf x, -1074, false⟩ (ratio (num, den))) :
    nearestFloat (signOf x) num den = x := by
  have fraction := fractionOf_lt x
  obtain ⟨near, tie⟩ := reads.near
  -- below the least normal float, reading keeps the least exponent
  have small : ratio (num, den) < 2 ^ (-1022 : Int) := by
    have fraction' : (fractionOf x : ℚ) + 1 ≤ 2 ^ 52 := by exact_mod_cast fraction
    calc ratio (num, den) ≤ (fractionOf x + 1 / 2) * 2 ^ (-1074 : Int) := reads.bounds.2
      _ < 2 ^ 52 * 2 ^ (-1074 : Int) := by gcongr; linarith
      _ = 2 ^ (-1022 : Int) := by rw [← zpow_natCast, ← zpow_add₀ (by norm_num)]; norm_num
  rw [nearestFloat_at hn hd (keptExponent_of_small hn hd small) near tie,
    packRounded_subnormal _ fraction]
  conv_rhs => rw [← floatOfFields_fields x, sub]

/-- A fraction within a quarter unit below `2 ^ 52` units of `2 ^ e` is read with one more bit
than a float at exponent `e` has: it rounds up to `2 ^ 53` units of `2 ^ (e - 1)`, which carries
into the power of two `2 ^ (e + 52)`. -/
theorem nearestFloat_carry {num den : Nat} (hn : 0 < num) (hd : 0 < den) {e : Int}
    (least : -1073 ≤ e) (fits : e + 1075 < 2047)
    (lo : (2 : ℚ) ^ 52 - 1 / 4 ≤ ratio (num, den) / 2 ^ e)
    (hi : ratio (num, den) / 2 ^ e < 2 ^ 52) (negative : Bool) :
    nearestFloat negative num den = floatOfFields negative (e + 1075).toNat 0 := by
  have unit : (0 : ℚ) < 2 ^ e := by positivity
  have twice : ratio (num, den) / 2 ^ (e - 1) = 2 * (ratio (num, den) / 2 ^ e) := by
    rw [zpow_sub₀ (by norm_num), zpow_one]
    field_simp
  have kept : keptExponent num den = e - 1 := by
    refine keptExponent_of_bounds hn hd (by omega) ?_ ?_
    · calc (2 : ℚ) ^ (e - 1 + 52) = 2 ^ 51 * 2 ^ e := by
            rw [show e - 1 + 52 = 51 + e by ring, zpow_add₀ (by norm_num)]
            norm_num
        _ ≤ ratio (num, den) := by
            rw [← le_div_iff₀ unit]
            linarith
    · calc ratio (num, den) < 2 ^ 52 * 2 ^ e := (div_lt_iff₀ unit).1 hi
        _ = 2 ^ (e - 1 + 53) := by
            rw [show e - 1 + 53 = 52 + e by ring, zpow_add₀ (by norm_num)]
            norm_num
  have carried : |ratio (num, den) / 2 ^ (e - 1) - ((2 ^ 53 : Nat) : ℚ)| ≤ 1 / 2 := by
    rw [twice, abs_le]
    push_cast
    constructor <;> linarith
  rw [nearestFloat_at hn hd kept carried (fun _ => by norm_num), packRounded_carry _ (by omega)]
  congr 1
  omega

theorem nearestFloat_normal {x : Float} (normal : biasedOf x ≠ 0) (finite : biasedOf x < 2047)
    {num den : Nat} (hn : 0 < num) (hd : 0 < den)
    (reads : ReadsBack ⟨signOf x, fractionOf x + 2 ^ 52, (biasedOf x : Int) - 1075,
      fractionOf x == 0 && biasedOf x > 1⟩ (ratio (num, den))) :
    nearestFloat (signOf x) num den = x := by
  have fraction := fractionOf_lt x
  obtain ⟨near, tie⟩ := reads.near
  obtain ⟨lo, hi⟩ := reads.bounds
  dsimp only at near tie lo hi
  set E : Int := (biasedOf x : Int) - 1075 with exponent
  have unit : (0 : ℚ) < 2 ^ E := by positivity
  have scale (k : Nat) : (2 : ℚ) ^ (E + k) = 2 ^ k * 2 ^ E := by
    rw [zpow_add₀ (by norm_num), zpow_natCast, mul_comm]
  have mantissa : ((fractionOf x + 2 ^ 52 : Nat) : ℚ) = fractionOf x + 2 ^ 52 := by push_cast; rfl
  rw [mantissa] at lo hi
  have fraction' : (fractionOf x : ℚ) + 1 ≤ 2 ^ 52 := by exact_mod_cast fraction
  have under : ratio (num, den) < 2 ^ (E + 53) := by
    rw [show E + 53 = E + (53 : Nat) by push_cast; ring, scale 53]
    calc ratio (num, den) ≤ (fractionOf x + 2 ^ 52 + 1 / 2) * 2 ^ E := hi
      _ < 2 ^ 53 * 2 ^ E := by gcongr; linarith
  have fits : E + 1075 < 2047 := by omega
  have own : (E + 1075).toNat = biasedOf x := by omega
  by_cases upper : (2 : ℚ) ^ (E + 52) ≤ ratio (num, den)
  · -- 53 bits at the float's own exponent give its own mantissa
    rw [nearestFloat_at hn hd (keptExponent_of_bounds hn hd (by omega) upper under) near tie,
      packRounded_normal _ (by omega) (by omega) fits, own, Nat.add_sub_cancel,
      floatOfFields_fields]
  · -- just below `2 ^ 52` units: the float is a power of two
    rw [not_le, show E + 52 = E + (52 : Nat) by push_cast; ring, scale 52] at upper
    have power : fractionOf x = 0 := by
      have lower : ((fractionOf x : ℚ) + 2 ^ 52 - 1 / 2) * 2 ^ E < 2 ^ 52 * 2 ^ E := by
        refine lt_of_le_of_lt (le_trans ?_ lo) upper
        gcongr
        split <;> norm_num
      have half : (fractionOf x : ℚ) < 1 := by
        linarith [lt_of_mul_lt_mul_right lower unit.le]
      exact Nat.lt_one_iff.1 (by exact_mod_cast half)
    by_cases least : biasedOf x = 1
    · -- at the least normal exponent the least exponent is kept, and the mantissa with it
      have small : ratio (num, den) < 2 ^ (-1022 : Int) := by
        have : E = -1074 := by omega
        rw [this] at upper
        calc ratio (num, den) < 2 ^ 52 * 2 ^ (-1074 : Int) := upper
          _ = 2 ^ (-1022 : Int) := by rw [← zpow_natCast, ← zpow_add₀ (by norm_num)]; norm_num
      have kept : keptExponent num den = E := by
        rw [keptExponent_of_small hn hd small]
        omega
      rw [nearestFloat_at hn hd kept near tie, packRounded_normal _ (by omega) (by omega) fits,
        own, Nat.add_sub_cancel, floatOfFields_fields]
    · -- the float below is closer: the value is at least a quarter unit below `2 ^ 52`
      have closer : (fractionOf x == 0 && biasedOf x > 1) = true := by
        simp [power]
        omega
      rw [if_pos closer, power, Nat.cast_zero, zero_add] at lo
      rw [nearestFloat_carry hn hd (by omega) fits (by rwa [le_div_iff₀ unit])
        (by rwa [div_lt_iff₀ unit]), own]
      conv_rhs => rw [← floatOfFields_fields x, power]

/-- Reading a fraction that lies in the interval of a finite nonzero float gives that float. -/
theorem nearestFloat_of_readsBack {x : Float} (finite : biasedOf x < 2047)
    (nonzero : biasedOf x ≠ 0 ∨ fractionOf x ≠ 0) {num den : Nat} (hd : 0 < den)
    (reads : ReadsBack (BinaryValue.ofFloat x) (ratio (num, den))) :
    nearestFloat (signOf x) num den = x := by
  -- the interval lies above zero, so the fraction is positive
  have positive := (ofFloat_finite finite nonzero).pos
  have hn : 0 < num := by
    have mantissa : (1 : ℚ) ≤ (BinaryValue.ofFloat x).mantissa := by exact_mod_cast positive
    have lowered : (0 : ℚ) < ((BinaryValue.ofFloat x).mantissa -
        if (BinaryValue.ofFloat x).lowerCloser then 1 / 4 else 1 / 2) := by
      split <;> linarith
    have above := lt_of_lt_of_le (mul_pos lowered (by positivity)) reads.bounds.1
    rw [ratio] at above
    exact_mod_cast (div_pos_iff_of_pos_right (by exact_mod_cast hd)).1 above
  by_cases sub : biasedOf x = 0
  · rw [ofFloat_subnormal sub] at reads
    exact nearestFloat_subnormal sub hn hd reads
  · rw [ofFloat_normal sub] at reads
    exact nearestFloat_normal sub finite hn hd reads

/-! ### Reading back a decimal -/

theorem ten_pow_lt_least : (10 : ℚ) ^ (-331 : Int) < 1 / 2 * 2 ^ (-1074 : Int) := by
  have powers : (2 : ℕ) ^ 1075 < 10 ^ 331 := by decide +kernel
  rw [zpow_neg, zpow_neg, zpow_ofNat, zpow_ofNat, ← inv_pow, one_div, ← inv_pow, ← pow_succ',
    inv_pow, inv_pow, inv_lt_inv₀ (by positivity) (by positivity)]
  have cast : ((2 ^ 1075 : ℕ) : ℚ) < ((10 ^ 331 : ℕ) : ℚ) := Nat.cast_lt.2 powers
  rwa [Nat.cast_pow, Nat.cast_pow, Nat.cast_ofNat, Nat.cast_ofNat] at cast

theorem greatest_lt_ten_pow : (2 : ℚ) ^ 53 * 2 ^ (971 : Int) < 10 ^ (309 : Int) := by
  have powers : (2 : ℕ) ^ 1024 < 10 ^ 309 := by decide +kernel
  rw [zpow_ofNat, zpow_ofNat, ← pow_add]
  have cast : ((2 ^ 1024 : ℕ) : ℚ) < ((10 ^ 309 : ℕ) : ℚ) := Nat.cast_lt.2 powers
  rwa [Nat.cast_pow, Nat.cast_pow, Nat.cast_ofNat, Nat.cast_ofNat] at cast

/-- A value that reads back as a finite nonzero float lies between `10 ^ -331` and `10 ^ 309`. -/
theorem ReadsBack.range {b : BinaryValue} (finite : b.Finite) {v : ℚ} (reads : ReadsBack b v) :
    (10 : ℚ) ^ (-331 : Int) < v ∧ v < 10 ^ (309 : Int) := by
  obtain ⟨lo, hi⟩ := reads.bounds
  have mantissa : (1 : ℚ) ≤ b.mantissa := by exact_mod_cast finite.pos
  have mantissa' : (b.mantissa : ℚ) + 1 ≤ 2 ^ 53 := by exact_mod_cast finite.lt
  have lowest : (1 : ℚ) / 2 ≤ b.mantissa - if b.lowerCloser then 1 / 4 else 1 / 2 := by
    split <;> linarith
  have highest : (b.mantissa : ℚ) + 1 / 2 ≤ 2 ^ 53 := by linarith
  constructor
  · calc (10 : ℚ) ^ (-331 : Int) < 1 / 2 * 2 ^ (-1074 : Int) := ten_pow_lt_least
      _ ≤ (b.mantissa - if b.lowerCloser then 1 / 4 else 1 / 2) * 2 ^ b.exponent :=
          mul_le_mul lowest (zpow_le_zpow_right₀ (by norm_num) finite.least) (by positivity)
            (by linarith)
      _ ≤ v := lo
  · calc v ≤ (b.mantissa + 1 / 2) * 2 ^ b.exponent := hi
      _ ≤ 2 ^ 53 * 2 ^ (971 : Int) :=
          mul_le_mul highest (zpow_le_zpow_right₀ (by norm_num) finite.greatest) (by positivity)
            (by positivity)
      _ < 10 ^ (309 : Int) := greatest_lt_ten_pow

/-- Reading a decimal that lies in the interval of a finite nonzero float gives that float: its
decimal magnitude is within the range where reading rounds, not a shortcut to zero or
infinity. -/
theorem toFloat_of_readsBack {x : Float} (finite : biasedOf x < 2047)
    (nonzero : biasedOf x ≠ 0 ∨ fractionOf x ≠ 0) {d : Decimal}
    (reads : ReadsBack (BinaryValue.ofFloat x) (value d)) : toFloat (signOf x) d = x := by
  obtain ⟨lo, hi⟩ := reads.range (ofFloat_finite finite nonzero)
  have digits : 0 < d.digits := by
    by_contra zero
    have nothing : value d = 0 := by simp [value, show d.digits = 0 by omega]
    rw [nothing] at lo
    exact absurd lo (not_lt.2 (zpow_pos (by norm_num) _).le)
  obtain ⟨first, last⟩ := digitCount_bounds digits
  have count : 1 ≤ digitCount d.digits := by
    by_contra none
    rw [show digitCount d.digits = 0 by omega, pow_zero] at last
    omega
  -- the value lies between `10 ^ (magnitude - 1)` and `10 ^ magnitude`
  have low : (10 : ℚ) ^ ((digitCount d.digits : Int) + d.exponent - 1) ≤ value d := by
    rw [value, show (digitCount d.digits : Int) + d.exponent - 1 =
      ((digitCount d.digits - 1 : Nat) : Int) + d.exponent by omega, zpow_add₀ (by norm_num),
      zpow_natCast]
    gcongr
    exact_mod_cast first
  have high : value d < (10 : ℚ) ^ ((digitCount d.digits : Int) + d.exponent) := by
    rw [value, zpow_add₀ (by norm_num), zpow_natCast]
    gcongr
    exact_mod_cast last
  have notLarge : ¬(digitCount d.digits : Int) + d.exponent > 330 := by
    intro large
    have := (zpow_lt_zpow_iff_right₀ (by norm_num : (1 : ℚ) < 10)).1 (low.trans_lt hi)
    omega
  have notSmall : ¬(digitCount d.digits : Int) + d.exponent < -330 := by
    intro small
    have := (zpow_lt_zpow_iff_right₀ (by norm_num : (1 : ℚ) < 10)).1 (lo.trans high)
    omega
  unfold toFloat
  rw [if_neg (by omega)]
  dsimp only
  rw [if_neg notLarge, if_neg notSmall]
  exact nearestFloat_of_readsBack finite nonzero (scaledRatio_den_pos _ (by norm_num) _)
    (by rwa [ratio_scaledRatio_decimal])

end MemoryDashboard.Decimal
