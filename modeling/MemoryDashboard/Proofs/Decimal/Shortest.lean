import MemoryDashboard.Proofs.Decimal.Nearest
import Mathlib

/-! # The shortest decimal reads back

The writer looks for the shortest decimal in the interval of a float, trying one to seventeen
digits. Each try tests the two neighbours of the value on the grid of its length, and returns
one only if it lies in the interval (`candidate_contains`). Seventeen digits always give a hit
(`candidate_seventeen`): the grid of seventeen digits is finer than the interval is wide,
`10 ^ (e - 16) ≤ v / 10 ^ 16 < 2 ^ exponent`, since a mantissa has fewer than `10 ^ 16` units,
and an interval wider than the grid that holds the value holds one of its two neighbours. So
the decimal written for a finite nonzero float reads back as that float
(`shortestOfBinary_readsBack`).
-/

namespace MemoryDashboard.Decimal

/-! ### The grid around the value -/

/-- The grid point at or below the value of an interval, at spacing `10 ^ k`, counted in units
of the spacing. -/
def gridBelow (r : ReadInterval) (k : Int) : Nat :=
  if 0 ≤ k then r.value.1 / (r.value.2 * Nat.pow 10 k.toNat)
  else r.value.1 * Nat.pow 10 (-k).toNat / r.value.2

theorem gridBelow_bounds (r : ReadInterval) (hd : 0 < r.value.2) (k : Int) :
    (gridBelow r k : ℚ) * 10 ^ k ≤ ratio r.value ∧ ratio r.value < (gridBelow r k + 1) * 10 ^ k := by
  have unit : (0 : ℚ) < 10 ^ k := by positivity
  have hd' : (0 : ℚ) < r.value.2 := by exact_mod_cast hd
  -- the grid count is the quotient of the value by the spacing, as a fraction of naturals
  have scaled : ∃ a b : Nat, 0 < b ∧ gridBelow r k = a / b ∧ (a : ℚ) / b = ratio r.value / 10 ^ k := by
    unfold gridBelow ratio
    split
    · next nonneg =>
      refine ⟨_, _, Nat.mul_pos hd (Nat.pow_pos (by norm_num)), rfl, ?_⟩
      rw [zpow_of_nonneg _ nonneg]
      push_cast [Nat.pow_eq]
      rw [div_div]
    · next neg =>
      refine ⟨_, _, hd, rfl, ?_⟩
      rw [zpow_of_neg _ neg]
      push_cast [Nat.pow_eq]
      field_simp
  obtain ⟨a, b, hb, count, quotient⟩ := scaled
  have hb' : (0 : ℚ) < b := by exact_mod_cast hb
  have floor : ((a / b : Nat) : ℚ) ≤ (a : ℚ) / b := Nat.cast_div_le
  have ceil : (a : ℚ) / b < (a / b : Nat) + 1 := by
    rw [div_lt_iff₀ hb']
    have above : a < (a / b + 1) * b := by
      rw [Nat.add_mul, Nat.one_mul]
      exact Nat.lt_div_mul_add hb
    exact_mod_cast above
  rw [count]
  rw [quotient, le_div_iff₀ unit] at floor
  rw [quotient, div_lt_iff₀ unit] at ceil
  exact ⟨floor, ceil⟩

/-- Whether a try finds a decimal is whether one of the two grid neighbours lies in the
interval. -/
theorem candidate_isSome_iff (r : ReadInterval) (e : Int) (count : Nat) :
    (candidate r e count).isSome = true ↔
      r.contains (scaledRatio (gridBelow r (e - count + 1)) 10 (e - count + 1)) = true ∨
        r.contains (scaledRatio (gridBelow r (e - count + 1) + 1) 10 (e - count + 1)) = true := by
  unfold candidate
  dsimp only
  by_cases below : r.contains (scaledRatio (gridBelow r (e - count + 1)) 10 (e - count + 1)) = true <;>
    by_cases above :
      r.contains (scaledRatio (gridBelow r (e - count + 1) + 1) 10 (e - count + 1)) = true <;>
    simp only [gridBelow] at below above ⊢ <;>
    simp only [below, above, Bool.and_true, Bool.and_false, if_true, if_false, Bool.false_eq_true,
      or_true, or_false, Option.isSome_some, Option.isSome_none]
  -- both neighbours lie in the interval: every branch returns one of them
  split_ifs <;> simp

theorem eq_of_choice {α : Type} {p q s : Prop} [Decidable p] [Decidable q] [Decidable s]
    {a b d : α} (chosen : (if p then some a else if q then some b else if s then some a else some b) =
      some d) : d = a ∨ d = b := by
  split_ifs at chosen <;> cases chosen <;> simp

/-- A try returns only a decimal that lies in the interval. -/
theorem candidate_contains {r : ReadInterval} {e : Int} {count : Nat} {d : Decimal}
    (found : candidate r e count = some d) :
    r.contains (scaledRatio d.digits 10 d.exponent) = true := by
  unfold candidate at found
  dsimp only at found
  by_cases below : r.contains (scaledRatio (gridBelow r (e - count + 1)) 10 (e - count + 1)) = true <;>
    by_cases above :
      r.contains (scaledRatio (gridBelow r (e - count + 1) + 1) 10 (e - count + 1)) = true <;>
    simp only [gridBelow] at below above <;>
    simp only [below, above, Bool.and_true, Bool.and_false, if_true, if_false,
      Bool.false_eq_true] at found
  · -- both neighbours lie in the interval, and one of them is returned
    rcases eq_of_choice found with rfl | rfl
    · exact below
    · exact above
  · cases found
    exact below
  · cases found
    exact above
  · cases found

/-! ### Seventeen digits always hit -/

/-- Shifting a fraction above `10 ^ -s` by `s` places (multiplying by `P = 10 ^ s`) and
counting the digits of the whole part gives a decimal exponent at most the fraction's own. -/
theorem shiftedExponent_le {num den P s : Nat} {t : Int} (hd : 0 < den) (st : t = s)
    (scale : (P : ℚ) = 10 ^ s) (large : (10 : ℚ) ^ (-t) ≤ ratio (num, den)) :
    (10 : ℚ) ^ ((digitCount (num * P / den) : Int) - 1 - t) ≤ ratio (num, den) := by
  subst st
  have hd' : (0 : ℚ) < den := by exact_mod_cast hd
  have scale' : (0 : ℚ) < 10 ^ s := by positivity
  have cast : ((num * P : Nat) : ℚ) = num * 10 ^ s := by
    rw [Nat.cast_mul, scale]
  rw [ratio, zpow_neg, zpow_natCast] at large
  dsimp only at large
  -- the shifted value is at least one, so it has a leading digit
  have shiftedLarge : (den : ℚ) ≤ num * 10 ^ s :=
    calc (den : ℚ) = den * 10 ^ s * (10 ^ s)⁻¹ := by field_simp
      _ ≤ den * 10 ^ s * (num / den) := by gcongr
      _ = num * 10 ^ s := by field_simp
  set N := num * P / den with count
  have positive : 0 < N := Nat.div_pos (Nat.cast_le.1 (shiftedLarge.trans_eq cast.symm)) hd
  have shifted : (N : ℚ) ≤ num * 10 ^ s / den := by
    rw [count, ← cast]
    exact Nat.cast_div_le
  obtain ⟨first, -⟩ := digitCount_bounds positive
  have digits : 1 ≤ digitCount N := by
    rw [digitCount]
    split <;> omega
  rw [show (digitCount N : Int) - 1 - s = ((digitCount N - 1 : Nat) : Int) - s by omega,
    zpow_sub₀ (by norm_num), zpow_natCast, zpow_natCast, div_le_iff₀ scale', ratio]
  dsimp only
  calc (10 : ℚ) ^ (digitCount N - 1) ≤ N := by exact_mod_cast first
    _ ≤ num * 10 ^ s / den := shifted
    _ = num / den * 10 ^ s := by ring

/-- `floorLog10` is at most the decimal exponent of a fraction above `10 ^ -400`. -/
theorem floorLog10_le {num den : Nat} (hd : 0 < den)
    (large : (10 : ℚ) ^ (-400 : Int) ≤ ratio (num, den)) :
    (10 : ℚ) ^ floorLog10 num den ≤ ratio (num, den) := by
  -- the shift is evaluated by the kernel and then kept abstract: elaborating with the literal
  -- power would try to compute it
  have scale : ((Nat.pow 10 400 : Nat) : ℚ) = (10 : ℚ) ^ (400 : Nat) := by
    rw [show Nat.pow 10 400 = 10 ^ 400 by decide +kernel, Nat.cast_pow, Nat.cast_ofNat]
  unfold floorLog10
  generalize Nat.pow 10 400 = P at scale ⊢
  exact shiftedExponent_le hd rfl scale large

/-- A value strictly inside the interval reads back. -/
theorem ReadsBack.of_inside {b : BinaryValue} {v : ℚ}
    (lo : (b.mantissa - if b.lowerCloser then 1 / 4 else 1 / 2) * 2 ^ b.exponent < v)
    (hi : v < (b.mantissa + 1 / 2) * 2 ^ b.exponent) : ReadsBack b v := by
  unfold ReadsBack
  dsimp only
  split
  · exact ⟨lo.le, hi.le⟩
  · exact ⟨lo, hi⟩

/-- The float's own value lies strictly inside its interval. -/
theorem center_inside (b : BinaryValue) :
    (b.mantissa - if b.lowerCloser then 1 / 4 else 1 / 2) * 2 ^ b.exponent <
        (b.mantissa : ℚ) * 2 ^ b.exponent ∧
      (b.mantissa : ℚ) * 2 ^ b.exponent < (b.mantissa + 1 / 2) * 2 ^ b.exponent := by
  have unit : (0 : ℚ) < 2 ^ b.exponent := by positivity
  constructor
  · gcongr
    split <;> linarith
  · gcongr
    linarith

/-- The float's own value reads back as the float. -/
theorem ReadsBack.center (b : BinaryValue) : ReadsBack b (b.mantissa * 2 ^ b.exponent) :=
  ReadsBack.of_inside (center_inside b).1 (center_inside b).2

/-- The interval is wider than the grid of seventeen digits around the value. -/
theorem spacing_lt_width {b : BinaryValue} (finite : b.Finite) {k : Int}
    (fine : (10 : ℚ) ^ k * 10 ^ (16 : Nat) ≤ b.mantissa * 2 ^ b.exponent) :
    (10 : ℚ) ^ k < ((b.mantissa + 1 / 2) - (b.mantissa - if b.lowerCloser then 1 / 4 else 1 / 2)) *
      2 ^ b.exponent := by
  have unit : (0 : ℚ) < 2 ^ b.exponent := by positivity
  have grid : (10 : ℚ) ^ k ≤ b.mantissa / 10 ^ (16 : Nat) * 2 ^ b.exponent := by
    rw [div_mul_eq_mul_div, le_div_iff₀ (by positivity)]
    exact fine
  refine lt_of_le_of_lt grid (mul_lt_mul_of_pos_right ?_ unit)
  split
  · -- under a power of two the interval is three quarters wide
    next closer =>
    rw [finite.closer closer]
    norm_num
  · -- elsewhere it is a whole unit wide, and a mantissa has fewer than `10 ^ 16` units
    have mantissa : (b.mantissa : ℚ) < 10 ^ (16 : Nat) := by
      exact_mod_cast finite.lt.trans (by norm_num)
    calc (b.mantissa : ℚ) / 10 ^ (16 : Nat) < 1 := (div_lt_one (by positivity)).2 mantissa
      _ = b.mantissa + 1 / 2 - (b.mantissa - 1 / 2) := by ring

/-- With seventeen digits, one of the two grid neighbours of the value reads back. -/
theorem candidate_seventeen {b : BinaryValue} (finite : b.Finite) :
    (candidate (ReadInterval.ofBinary b)
      (floorLog10 (ReadInterval.ofBinary b).value.1 (ReadInterval.ofBinary b).value.2) 17).isSome =
      true := by
  set r := ReadInterval.ofBinary b
  have hd : 0 < r.value.2 := scaledRatio_den_pos _ (by norm_num) _
  -- the value itself is the float, in the middle of its interval
  have value : ratio r.value = b.mantissa * 2 ^ b.exponent := by
    change ratio (scaledRatio (4 * b.mantissa) 2 (b.exponent - 2)) = _
    rw [ratio_scaledRatio, zpow_sub₀ (by norm_num)]
    push_cast
    field_simp
  have lowerEnd : (b.mantissa - if b.lowerCloser then 1 / 4 else 1 / 2) * 2 ^ b.exponent <
      ratio r.value := by
    rw [value]
    exact (center_inside b).1
  have upperEnd : ratio r.value < (b.mantissa + 1 / 2) * 2 ^ b.exponent := by
    rw [value]
    exact (center_inside b).2
  have self : ReadsBack b (ratio r.value) := ReadsBack.of_inside lowerEnd upperEnd
  set e := floorLog10 r.value.1 r.value.2
  have exponent : (10 : ℚ) ^ e ≤ ratio r.value :=
    floorLog10_le hd ((zpow_le_zpow_right₀ (by norm_num) (by norm_num)).trans
      (self.range finite).1.le)
  set k := e - (17 : Nat) + 1 with hk
  have fine : (10 : ℚ) ^ k * 10 ^ (16 : Nat) ≤ b.mantissa * 2 ^ b.exponent := by
    rw [← value, ← zpow_natCast, ← zpow_add₀ (by norm_num)]
    convert exponent using 2
    push_cast
    ring
  have width := spacing_lt_width finite fine
  obtain ⟨lo, hi⟩ := gridBelow_bounds r hd k
  have point (g : Nat) : ratio (scaledRatio g 10 k) = g * 10 ^ k := ratio_scaledRatio _ _ _
  rw [candidate_isSome_iff, contains_iff finite.pos (scaledRatio_den_pos _ (by norm_num) _),
    contains_iff finite.pos (scaledRatio_den_pos _ (by norm_num) _), ← hk, point, point]
  by_cases inBelow : ReadsBack b (gridBelow r k * 10 ^ k)
  · exact .inl inBelow
  · -- the point below is at or under the low end, so the point above is inside
    right
    have under : (gridBelow r k : ℚ) * 10 ^ k ≤
        (b.mantissa - if b.lowerCloser then 1 / 4 else 1 / 2) * 2 ^ b.exponent := by
      by_contra exceeds
      exact inBelow (ReadsBack.of_inside (not_le.1 exceeds) (lo.trans_lt upperEnd))
    push_cast
    apply ReadsBack.of_inside
    · linarith
    · linarith

/-- The shortest decimal of a finite nonzero float reads back as that float. -/
theorem shortestOfBinary_readsBack {b : BinaryValue} (finite : b.Finite) :
    ReadsBack b (value (shortestOfBinary b)) := by
  unfold shortestOfBinary
  rw [if_neg finite.pos.ne']
  dsimp only
  set r := ReadInterval.ofBinary b
  set e := floorLog10 r.value.1 r.value.2
  have hit : ((List.range 17).findSome? (fun i => candidate r e (i + 1))).isSome = true :=
    List.findSome?_isSome_iff.2 ⟨16, List.mem_range.2 (by norm_num), candidate_seventeen finite⟩
  obtain ⟨d, found⟩ := Option.isSome_iff_exists.1 hit
  rw [found, (value_trim d).1]
  obtain ⟨count, -, tried⟩ := List.exists_of_findSome?_eq_some found
  rw [← ratio_scaledRatio_decimal]
  exact (contains_iff finite.pos (scaledRatio_den_pos _ (by norm_num) _)).1
    (candidate_contains tried)

end MemoryDashboard.Decimal
