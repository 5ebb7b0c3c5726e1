import MemoryDashboard.Decimal.Basic
/-!
# Floats to whole numbers

Converting a float to a bounded whole number drops the fraction (toward zero) and then clamps
to the bounds; not-a-number becomes zero and the infinities become the bounds.
-/

namespace MemoryDashboard

namespace Decimal

/-- The whole part of a finite float, rounding toward zero. -/
def truncate (x : Float) : Int :=
  let b := BinaryValue.ofFloat x
  let magnitude : Nat :=
    if 0 ≤ b.exponent then b.mantissa * Nat.pow 2 b.exponent.toNat else b.mantissa / Nat.pow 2 (-b.exponent).toNat
  if b.negative then -(magnitude : Int) else magnitude

/-- Whether a finite float is a whole number: no bit of its exact value lies below the point. -/
def isWhole (x : Float) : Bool :=
  let b := BinaryValue.ofFloat x
  0 ≤ b.exponent || b.mantissa % Nat.pow 2 (-b.exponent).toNat == 0

/-- A float as a whole number between `lo` and `hi`: the fraction dropped, clamped to the
bounds, not-a-number as zero. -/
def saturate (lo hi : Int) (x : Float) : Int :=
  if x.isNaN then 0
  else if x.isInf then (if x < 0 then lo else hi)
  else max lo (min hi (truncate x))

/-- A float as a signed 64-bit whole number. -/
def toInt64Saturating (x : Float) : Int := saturate (-(Int.pow 2 63)) (Int.pow 2 63 - 1) x

/-- A float as an unsigned 64-bit whole number. -/
def toUInt64Saturating (x : Float) : Nat := (saturate 0 (Int.pow 2 64 - 1) x).toNat

end Decimal

end MemoryDashboard
