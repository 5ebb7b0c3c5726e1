/-!
# Decimals and the exact value of a float

A finite binary64 float is exactly `mantissa * 2 ^ exponent` for a natural mantissa; a decimal
is `digits * 10 ^ exponent`. Every text the dashboard writes for a float is computed from these
two exact forms in natural-number arithmetic, so no rounding step hides in the printing.
-/

namespace MemoryDashboard

/-- A decimal `digits * 10 ^ exponent`. -/
structure Decimal where
  digits : Nat
  exponent : Int
  deriving Inhabited, DecidableEq, Repr

/-- The exact value of a finite float: sign, and `mantissa * 2 ^ exponent`. -/
structure BinaryValue where
  negative : Bool
  mantissa : Nat
  exponent : Int
  /-- Whether the float below this one is half as far away as the float above it:
  the mantissa is a power of two and the exponent is not the least one. -/
  lowerCloser : Bool
  deriving Inhabited, Repr

namespace BinaryValue

/-- Splits the bits of a float into sign, mantissa and exponent. For a non-finite float the
result is meaningless; callers test finiteness first. -/
def ofFloat (x : Float) : BinaryValue :=
  let bits := x.toBits.toNat
  let negative := bits / Nat.pow 2 63 % 2 == 1
  let biased : Nat := bits / Nat.pow 2 52 % Nat.pow 2 11
  let fraction : Nat := bits % Nat.pow 2 52
  if biased == 0 then
    { negative, mantissa := fraction, exponent := -1074, lowerCloser := false }
  else
    { negative, mantissa := fraction + Nat.pow 2 52, exponent := (biased : Int) - 1075,
      lowerCloser := fraction == 0 && biased > 1 }

end BinaryValue

namespace Decimal

/-- The number of decimal digits of a natural number, at least one. -/
def digitCount (n : Nat) : Nat :=
  if n < 10 then 1 else digitCount (n / 10) + 1
termination_by n
decreasing_by omega

/-- The decimal digits of a natural number. -/
def digitText (n : Nat) : String := toString n

/-- `a * base ^ e` as a fraction of naturals, for an integer power. -/
def scaledRatio (a base : Nat) (e : Int) : Nat × Nat :=
  if 0 ≤ e then (a * Nat.pow base e.toNat, 1) else (a, Nat.pow base (-e).toNat)

/-- Strict order of two fractions with positive denominators. -/
def ratioLt (x y : Nat × Nat) : Bool := x.1 * y.2 < y.1 * x.2

/-- Non-strict order of two fractions with positive denominators. -/
def ratioLe (x y : Nat × Nat) : Bool := x.1 * y.2 ≤ y.1 * x.2

/-- `floor (log10 (num / den))` for a positive fraction whose value lies between `10^-400`
and `10^400`; a float's value always does. -/
def floorLog10 (num den : Nat) : Int :=
  (digitCount (num * Nat.pow 10 400 / den) : Int) - 1 - 400

/-- Removes trailing zero digits, raising the exponent to keep the value. -/
def trim (d : Decimal) : Decimal :=
  if d.digits % 10 == 0 && d.digits != 0 then
    trim { digits := d.digits / 10, exponent := d.exponent + 1 }
  else d
termination_by d.digits
decreasing_by
  simp_all
  omega

end Decimal

end MemoryDashboard
