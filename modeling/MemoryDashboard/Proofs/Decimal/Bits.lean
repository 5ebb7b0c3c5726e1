import MemoryDashboard.Decimal.Nearest
import Mathlib

/-! # The bits of a float

A float is a 64-bit word: a sign bit, an 11-bit biased exponent and a 52-bit fraction. Reading
the word back through the logical float model gives the word itself (`ofBits_toBits`), so a
float is its three fields (`floatOfFields_fields`). Whether a float is not-a-number, infinite
or zero is a condition on the exponent and fraction fields alone (`isNaN_eq`, `isInf_eq`,
`beq_zero_eq`), and negation keeps both fields (`neg_fields`).

A whole number converted to a float rounds to a nonzero float when it is not zero
(`toFloat_beq_zero`): rounding keeps at least one bit of the mantissa, and the packed word of
such a mantissa has a nonzero field.
-/

namespace MemoryDashboard.Decimal

open Float.Model Float.Model.UnpackedFloat

/-! ### Words and their fields -/

theorem append_toNat {n k : Nat} (x : BitVec n) (y : BitVec k) :
    (x ++ y).toNat = x.toNat * 2 ^ k + y.toNat := by
  rw [BitVec.toNat_append, ← Nat.shiftLeft_add_eq_or_of_lt y.isLt, Nat.shiftLeft_eq]

theorem packComponents_toNat (s : Sign) (e : BitVec 11) (m : BitVec 52) :
    (packComponents Format.binary64 s e m).toNat =
      s.toBitVec.toNat * 2 ^ 63 + e.toNat * 2 ^ 52 + m.toNat := by
  unfold packComponents
  rw [append_toNat, append_toNat]
  ring

theorem packComponents_exponent (s : Sign) (e : BitVec 11) (m : BitVec 52) :
    (packComponents Format.binary64 s e m).toNat / 2 ^ 52 % 2 ^ 11 = e.toNat := by
  have small := e.isLt
  have fraction := m.isLt
  have sign := s.toBitVec.isLt
  rw [packComponents_toNat]
  omega

theorem packComponents_fraction (s : Sign) (e : BitVec 11) (m : BitVec 52) :
    (packComponents Format.binary64 s e m).toNat % 2 ^ 52 = m.toNat := by
  have fraction := m.isLt
  rw [packComponents_toNat]
  omega

theorem sign_toBitVec_ofBitVec (v : BitVec 1) : (Sign.ofBitVec v).toBitVec = v := by
  unfold Sign.ofBitVec
  split
  · next zero => exact zero.symm
  · next nonzero =>
    have one : v.toNat ≠ 0 := fun h => nonzero (BitVec.eq_of_toNat_eq h)
    have small := v.isLt
    apply BitVec.eq_of_toNat_eq
    simp only [Sign.toBitVec, BitVec.toNat_ofNat]
    omega

theorem unpackExponent_toNat (b : BitVec 64) :
    (@unpackExponent Format.binary64 b).toNat = b.toNat / 2 ^ 52 % 2 ^ 11 := by
  simp [unpackExponent, BitVec.extractLsb, BitVec.extractLsb', Nat.shiftRight_eq_div_pow]

theorem unpackMantissa_toNat (b : BitVec 64) :
    (@unpackMantissa Format.binary64 b).toNat = b.toNat % 2 ^ 52 := by
  simp [unpackMantissa, BitVec.extractLsb, BitVec.extractLsb']

/-- A word is the packing of its own three fields. -/
theorem packComponents_fields (b : BitVec 64) :
    packComponents Format.binary64 (Sign.ofBitVec (@unpackSign Format.binary64 b))
      (unpackExponent b) (unpackMantissa b) = b := by
  apply BitVec.eq_of_toNat_eq
  have small : b.toNat < 2 ^ 64 := b.isLt
  rw [packComponents_toNat, sign_toBitVec_ofBitVec, unpackExponent_toNat, unpackMantissa_toNat]
  simp [unpackSign, BitVec.extractLsb, BitVec.extractLsb', Nat.shiftRight_eq_div_pow]
  omega

theorem unpackExponent_eq_top (b : BitVec 64) :
    @unpackExponent Format.binary64 b = -1#11 ↔ b.toNat / 2 ^ 52 % 2 ^ 11 = 2047 := by
  rw [← unpackExponent_toNat, ← BitVec.toNat_inj]
  simp

theorem unpackExponent_eq_zero (b : BitVec 64) :
    @unpackExponent Format.binary64 b = 0#11 ↔ b.toNat / 2 ^ 52 % 2 ^ 11 = 0 := by
  rw [← unpackExponent_toNat, ← BitVec.toNat_inj]
  simp

theorem unpackMantissa_eq_zero (b : BitVec 64) :
    @unpackMantissa Format.binary64 b = 0#52 ↔ b.toNat % 2 ^ 52 = 0 := by
  rw [← unpackMantissa_toNat, ← BitVec.toNat_inj]
  simp

/-- A word unpacks to an infinity, not-a-number, a zero or a finite number, as its exponent
field is all ones or zero and its fraction field is zero or not. -/
theorem unpack_shape (b : BitVec 64) {u : UnpackedFloat}
    (unpacked : UnpackedFloat.unpack Format.binary64 b = u) :
    (b.toNat / 2 ^ 52 % 2 ^ 11 = 2047 ∧ b.toNat % 2 ^ 52 = 0 ∧ ∃ s, u = .infinity s) ∨
      (b.toNat / 2 ^ 52 % 2 ^ 11 = 2047 ∧ b.toNat % 2 ^ 52 ≠ 0 ∧ u = .notANumber) ∨
      (b.toNat / 2 ^ 52 % 2 ^ 11 = 0 ∧ b.toNat % 2 ^ 52 = 0 ∧ ∃ s, u = .zero s) ∨
      (b.toNat / 2 ^ 52 % 2 ^ 11 ≠ 2047 ∧ (b.toNat / 2 ^ 52 % 2 ^ 11 ≠ 0 ∨ b.toNat % 2 ^ 52 ≠ 0) ∧
        ∃ s m e pos, u = .finite s m e pos) := by
  unfold UnpackedFloat.unpack at unpacked
  dsimp only at unpacked
  split at unpacked
  · next top =>
    have top := (unpackExponent_eq_top b).1 top
    split at unpacked
    · next zero => exact .inl ⟨top, (unpackMantissa_eq_zero b).1 zero, _, unpacked.symm⟩
    · next fraction =>
      exact .inr (.inl ⟨top, mt (unpackMantissa_eq_zero b).2 fraction, unpacked.symm⟩)
  · next notTop =>
    have notTop := mt (unpackExponent_eq_top b).2 notTop
    split at unpacked
    · next bottom =>
      have bottom := (unpackExponent_eq_zero b).1 bottom
      split at unpacked
      · next zero =>
        exact .inr (.inr (.inl ⟨bottom, (unpackMantissa_eq_zero b).1 zero, _, unpacked.symm⟩))
      · next fraction =>
        exact .inr (.inr (.inr ⟨notTop, .inr (mt (unpackMantissa_eq_zero b).2 fraction),
          _, _, _, _, unpacked.symm⟩))
    · next notBottom =>
      exact .inr (.inr (.inr ⟨notTop, .inl (mt (unpackExponent_eq_zero b).2 notBottom),
        _, _, _, _, unpacked.symm⟩))

/-! ### Packing what was unpacked -/

theorem pack_subnormal (s : Sign) (m : BitVec 52) {exponent : Int} (least : exponent = -1074)
    (pos : 0 < m.toNat) :
    UnpackedFloat.pack Format.binary64 (.finite s m.toNat exponent pos) =
      packComponents Format.binary64 s 0#11 m := by
  have small : m.toNat.log2 < 52 := (Nat.log2_lt (by omega)).2 m.isLt
  simp only [UnpackedFloat.pack, least]
  rw [if_neg (by decide), if_neg (by simp [Format.mantissaBits]; omega), BitVec.ofNat_toNat,
    BitVec.setWidth_eq]

theorem pack_normal (s : Sign) (e : BitVec 11) (m : BitVec 52) (notTop : e ≠ -1#11)
    {exponent : Int} (biased : exponent = e.toNat - 1075) (pos) :
    UnpackedFloat.pack Format.binary64 (.finite s (1#1 ++ m).toNat exponent pos) =
      packComponents Format.binary64 s e m := by
  have implicit : (1#1 ++ m).toNat = 2 ^ 52 + m.toNat := by
    rw [append_toNat]
    simp
  have top : e.toNat ≠ 2047 := fun h => notTop (BitVec.eq_of_toNat_eq (by simpa using h))
  have fraction := m.isLt
  have log : (1#1 ++ m).toNat.log2 = 52 := by
    rw [implicit]
    exact (Nat.log2_eq_iff (by omega)).2 ⟨by omega, by omega⟩
  have small := e.isLt
  simp only [UnpackedFloat.pack, log, biased]
  rw [if_neg (by simp [Format.exponentBias]; omega), if_pos (by rfl)]
  congr 1
  · apply BitVec.eq_of_toNat_eq
    simp [Format.exponentBias]
    omega
  · apply BitVec.eq_of_toNat_eq
    simp [implicit]
    omega

/-- Unpacking a word and packing it again, with its sign kept or flipped, gives the word with
that sign; a NaN is the canonical NaN either way. -/
theorem pack_unpack_signed {b : BitVec 64} (valid : Format.binary64.Valid b) (flip : Bool) :
    UnpackedFloat.pack Format.binary64
        (if flip then (UnpackedFloat.unpack Format.binary64 b).neg
          else UnpackedFloat.unpack Format.binary64 b) = b ∨
      UnpackedFloat.pack Format.binary64
          (if flip then (UnpackedFloat.unpack Format.binary64 b).neg
            else UnpackedFloat.unpack Format.binary64 b) =
        packComponents Format.binary64
          (if flip then -Sign.ofBitVec (@unpackSign Format.binary64 b)
            else Sign.ofBitVec (@unpackSign Format.binary64 b))
          (unpackExponent b) (unpackMantissa b) := by
  unfold UnpackedFloat.unpack
  dsimp only
  by_cases top : @unpackExponent Format.binary64 b = -1#11
  · rw [if_pos top]
    by_cases zero : @unpackMantissa Format.binary64 b = 0#52
    · refine .inr ?_
      rw [if_pos zero, top, zero]
      cases flip <;> rfl
    · refine .inl ?_
      rw [if_neg zero]
      cases flip <;> exact (valid.eq_packedNaN top zero).symm
  · rw [if_neg top]
    refine .inr ?_
    by_cases bottom : @unpackExponent Format.binary64 b = 0#11
    · rw [if_pos bottom]
      by_cases zero : @unpackMantissa Format.binary64 b = 0#52
      · rw [dif_pos zero, bottom, zero]
        cases flip <;> rfl
      · rw [dif_neg zero, bottom]
        cases flip <;> exact pack_subnormal _ _ (by simp [Format.exponentBias]) _
    · rw [if_neg bottom]
      cases flip <;> exact pack_normal _ _ _ top (by simp [Format.exponentBias]) _

theorem pack_unpack {b : BitVec 64} (valid : Format.binary64.Valid b) :
    UnpackedFloat.pack Format.binary64 (UnpackedFloat.unpack Format.binary64 b) = b := by
  rcases pack_unpack_signed valid false with same | signed
  · exact same
  · simpa [packComponents_fields] using signed

/-! ### Floats by their fields -/

/-- The biased exponent field of a float. -/
def biasedOf (x : Float) : Nat := x.toBits.toNat / 2 ^ 52 % 2 ^ 11

/-- The fraction field of a float. -/
def fractionOf (x : Float) : Nat := x.toBits.toNat % 2 ^ 52

/-- The sign bit of a float. -/
def signOf (x : Float) : Bool := x.toBits.toNat / 2 ^ 63 % 2 == 1

theorem unpack_toModel (x : Float) :
    x.toModel.unpack = UnpackedFloat.unpack Format.binary64 x.toBits.toBitVec := rfl

theorem ofBits_toBits (x : Float) : Float.ofBits x.toBits = x := by
  rcases x with ⟨⟨bits, valid⟩⟩
  change Float.ofModel (Float.Model.pack (UnpackedFloat.unpack Format.binary64 bits.toBitVec)) = _
  simp only [Float.Model.pack, pack_unpack valid]

/-- A float is the word of its sign, biased exponent and fraction. -/
theorem toBits_toNat_fields (x : Float) :
    x.toBits.toNat = (if signOf x then 2 ^ 63 else 0) + biasedOf x * 2 ^ 52 + fractionOf x := by
  have small : x.toBits.toNat < 2 ^ 64 := x.toBits.toNat_lt
  unfold signOf biasedOf fractionOf
  split <;> simp_all <;> omega

theorem floatOfFields_fields (x : Float) :
    floatOfFields (signOf x) (biasedOf x) (fractionOf x) = x := by
  have word : ((if signOf x then Nat.pow 2 63 else 0) + biasedOf x * Nat.pow 2 52 +
      fractionOf x).toUInt64 = x.toBits := by
    apply UInt64.toNat.inj
    simp only [Nat.pow_eq, ← toBits_toNat_fields]
    simp
  rw [floatOfFields, word, ofBits_toBits]

theorem isNaN_eq (x : Float) : x.isNaN = (biasedOf x == 2047 && fractionOf x != 0) := by
  change x.toModel.unpack.isNaN = _
  rcases unpack_shape x.toBits.toBitVec (unpack_toModel x).symm with
    ⟨e, f, s, u⟩ | ⟨e, f, u⟩ | ⟨e, f, s, u⟩ | ⟨e, f, s, m, ex, pos, u⟩ <;>
    simp only [UInt64.toNat_toBitVec] at e f <;>
    simp only [u, UnpackedFloat.isNaN, biasedOf, fractionOf] <;>
    simp at e f ⊢ <;>
    omega

theorem isInf_eq (x : Float) : x.isInf = (biasedOf x == 2047 && fractionOf x == 0) := by
  change x.toModel.unpack.isInf = _
  rcases unpack_shape x.toBits.toBitVec (unpack_toModel x).symm with
    ⟨e, f, s, u⟩ | ⟨e, f, u⟩ | ⟨e, f, s, u⟩ | ⟨e, f, s, m, ex, pos, u⟩ <;>
    simp only [UInt64.toNat_toBitVec] at e f <;>
    simp only [u, UnpackedFloat.isInf, biasedOf, fractionOf] <;>
    simp at e f ⊢ <;>
    omega

/-- A float equals zero exactly when both its exponent and fraction fields are zero. -/
theorem beq_zero_eq (x : Float) : (x == 0.0) = (biasedOf x == 0 && fractionOf x == 0) := by
  have zero : (0.0 : Float).toModel.unpack = .zero .positive := rfl
  change (x.toModel.unpack.compare (0.0 : Float).toModel.unpack == some .eq) = _
  rw [zero]
  rcases unpack_shape x.toBits.toBitVec (unpack_toModel x).symm with
    ⟨e, f, s, u⟩ | ⟨e, f, u⟩ | ⟨e, f, s, u⟩ | ⟨e, f, s, m, ex, pos, u⟩ <;>
    simp only [UInt64.toNat_toBitVec] at e f <;>
    (try cases s) <;>
    simp only [u, UnpackedFloat.compare, biasedOf, fractionOf] <;>
    simp at e f ⊢ <;>
    omega

/-- Negation changes the sign bit only. -/
theorem neg_fields (x : Float) : biasedOf (-x) = biasedOf x ∧ fractionOf (-x) = fractionOf x := by
  rcases x with ⟨⟨bits, valid⟩⟩
  have negated : (-Float.ofModel ⟨bits, valid⟩).toBits.toBitVec =
      UnpackedFloat.pack Format.binary64
        (if true then (UnpackedFloat.unpack Format.binary64 bits.toBitVec).neg
          else UnpackedFloat.unpack Format.binary64 bits.toBitVec) := rfl
  unfold biasedOf fractionOf
  rw [← UInt64.toNat_toBitVec, ← UInt64.toNat_toBitVec (Float.toBits _), negated]
  rcases pack_unpack_signed valid true with same | signed
  · rw [same]
    exact ⟨rfl, rfl⟩
  · rw [signed, packComponents_exponent, packComponents_fraction, unpackExponent_toNat,
      unpackMantissa_toNat]
    exact ⟨rfl, rfl⟩

/-! ### Whole numbers as floats -/

theorem shift_mantissa (em : ExtendedMantissa) (k : Nat) :
    (em >>> k).mantissa = em.mantissa / 2 ^ k := by
  induction k generalizing em with
  | zero => simp [HShiftRight.hShiftRight, Nat.repeat]
  | succ k ih =>
    change (Nat.repeat ExtendedMantissa.shiftRightOne (k + 1) em).mantissa = _
    change ((em >>> k).mantissa / 2) = _
    rw [ih, Nat.div_div_eq_div_mul, Nat.pow_succ]

theorem mantissa_le_rounded (em : ExtendedMantissa) : em.mantissa ≤ em.roundedMantissa := by
  rcases em with ⟨m, round, sticky⟩
  cases round <;> cases sticky <;>
    simp [ExtendedMantissa.roundedMantissa, ExtendedMantissa.accuracy, Accuracy.roundToNearestEven]

/-- Shifting a mantissa to its target exponent keeps between one and 53 of its bits, when its
exponent is not below the least one. -/
theorem shiftToTarget_bounds {m : Nat} {e : Int} (a : Accuracy) (pos : 0 < m) (least : -1074 ≤ e) :
    0 < (shiftToTargetExponent Format.binary64 m e a).1.mantissa ∧
      (shiftToTargetExponent Format.binary64 m e a).1.mantissa < 2 ^ 53 ∧
      -1074 ≤ (shiftToTargetExponent Format.binary64 m e a).2 := by
  have log : 2 ^ m.log2 ≤ m ∧ m < 2 ^ (m.log2 + 1) :=
    ⟨Nat.log2_self_le (by omega), Nat.lt_log2_self⟩
  have target : Format.binary64.targetExponent (totalExponent m e) =
      max ((m.log2 : Int) + e - 52) (-1074) := by
    simp only [Format.targetExponent, totalExponent, Format.mantissaBits, Format.minExponent]
    norm_num
    omega
  set k := (Format.binary64.targetExponent (totalExponent m e) - e).toNat with shift
  have mantissa : (shiftToTargetExponent Format.binary64 m e a).1.mantissa = m / 2 ^ k := by
    simp only [shiftToTargetExponent, shiftToExponent, shift_mantissa]
    cases a with
    | exact => rfl
    | inexact o => cases o <;> rfl
  -- the shift drops fewer bits than the mantissa has, and leaves at most 53
  have kept : k ≤ m.log2 := by omega
  have dropped : m.log2 ≤ 52 + k := by omega
  refine ⟨?_, ?_, ?_⟩
  · rw [mantissa]
    apply Nat.div_pos _ (by positivity)
    calc 2 ^ k ≤ 2 ^ m.log2 := Nat.pow_le_pow_right (by norm_num) kept
      _ ≤ m := log.1
  · rw [mantissa, Nat.div_lt_iff_lt_mul (by positivity), ← Nat.pow_add]
    calc m < 2 ^ (m.log2 + 1) := log.2
      _ ≤ 2 ^ (53 + k) := Nat.pow_le_pow_right (by norm_num) (by omega)
  · change -1074 ≤ e + k
    omega

theorem roundWithAccuracy_finite (s : Sign) {m : Nat} {e : Int} (a : Accuracy) (pos : 0 < m)
    (least : -1074 ≤ e) :
    ∃ fm fe pos', roundWithAccuracy Format.binary64 s m e a = .finite s fm fe pos' ∧
      fm < 2 ^ 53 ∧ -1074 ≤ fe := by
  obtain ⟨pos₁, -, least₁⟩ := shiftToTarget_bounds a pos least
  have rounded := mantissa_le_rounded (shiftToTargetExponent Format.binary64 m e a).1
  unfold roundWithAccuracy
  generalize shiftToTargetExponent Format.binary64 m e a = first at *
  rcases first with ⟨em₁, e₁⟩
  dsimp only at *
  -- the rounded mantissa is shifted once more, and still keeps a bit
  obtain ⟨pos₂, small₂, least₂⟩ := @shiftToTarget_bounds em₁.roundedMantissa e₁ .exact (by omega) least₁
  generalize shiftToTargetExponent Format.binary64 em₁.roundedMantissa e₁ .exact = final at *
  rcases final with ⟨emf, ef⟩
  dsimp only at *
  exact ⟨_, _, pos₂, dif_neg (by omega), small₂, least₂⟩

theorem round_finite (s : Sign) {m : Nat} {e : Int} (pos : 0 < m) (least : -1074 ≤ e) :
    ∃ fm fe pos', UnpackedFloat.round Format.binary64 s m e = .finite s fm fe pos' ∧
      fm < 2 ^ 53 ∧ -1074 ≤ fe := by
  have target : -1074 ≤ Format.binary64.targetExponent (totalExponent m e) := by
    simp only [Format.targetExponent, Format.minExponent, Format.mantissaBits]
    norm_num
  unfold UnpackedFloat.round decreaseExponent
  dsimp only
  -- the exponent is first lowered to the target, which is never below the least exponent
  apply roundWithAccuracy_finite
  · rw [Nat.shiftLeft_eq]
    positivity
  · omega

/-- A finite float of at most 53 bits packs to a word whose exponent or fraction is not zero. -/
theorem pack_finite_nonzero (s : Sign) {fm : Nat} {fe : Int} (pos : 0 < fm) (small : fm < 2 ^ 53)
    (least : -1074 ≤ fe) :
    (UnpackedFloat.pack Format.binary64 (.finite s fm fe pos)).toNat / 2 ^ 52 % 2 ^ 11 ≠ 0 ∨
      (UnpackedFloat.pack Format.binary64 (.finite s fm fe pos)).toNat % 2 ^ 52 ≠ 0 := by
  simp only [UnpackedFloat.pack]
  split
  · -- too large: the infinity, whose exponent is all ones
    left
    rw [packedInfinity, packComponents_exponent]
    simp
  · next below =>
    split
    · next normal =>
      left
      rw [packComponents_exponent]
      simp [Format.exponentBias] at below ⊢
      omega
    · next subnormal =>
      -- a mantissa of fewer than 53 bits is below the implicit bit, and kept as it is
      right
      have short : fm < 2 ^ 52 := by
        have bits := (Nat.log2_lt (by omega)).2 small
        simp [Format.mantissaBits] at subnormal
        exact (Nat.log2_lt (by omega)).1 (by omega)
      rw [packComponents_fraction]
      simp
      omega

/-- A whole number that is not zero converts to a float that is not zero. -/
theorem toFloat_beq_zero {w : UInt64} (pos : 0 < w.toNat) : (w.toFloat == 0.0) = false := by
  have compared : compare (w.toNat : Int) 0 = .gt := Int.compare_eq_gt.2 (by omega)
  obtain ⟨fm, fe, pos', rounded, small, least⟩ := round_finite .positive pos (show (-1074 : Int) ≤ 0 by decide)
  have word : w.toFloat.toBits.toBitVec =
      UnpackedFloat.pack Format.binary64 (.finite .positive fm fe pos') := by
    change UnpackedFloat.pack _ (UnpackedFloat.normalize _ (w.toNat : Int) 0 .positive) = _
    rw [UnpackedFloat.normalize, compared]
    simp only [Int.toNat_natCast]
    rw [rounded]
  have nonzero := pack_finite_nonzero .positive pos' small least
  rw [beq_zero_eq]
  simp only [biasedOf, fractionOf, ← UInt64.toNat_toBitVec, word]
  simp
  omega

end MemoryDashboard.Decimal
