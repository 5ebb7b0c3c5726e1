import MemoryDashboard.Decimal.Basic
/-!
# The float nearest to a fraction

Reading a decimal text means rounding the exact value `num / den` to binary64: the mantissa is
the quotient at the right power of two, and the remainder decides the last bit, a tie going to
the even mantissa. Values below the least normal float keep the least exponent (subnormals);
values that round past the largest finite float become infinity.
-/

namespace MemoryDashboard

namespace Decimal

/-- `floor (log2 (num / den))` for positive `num` and `den`. -/
def floorLog2 (num den : Nat) : Int :=
  let guess : Int := (num.log2 : Int) - (den.log2 : Int)
  let atGuess := scaledRatio 1 2 guess
  if ratioLe atGuess (num, den) then guess else guess - 1

/-- `a / b` rounded to the nearest natural, a tie going to the even one. -/
def roundHalfEven (a b : Nat) : Nat :=
  let q := a / b
  let r := a % b
  if 2 * r < b then q
  else if 2 * r > b then q + 1
  else if q % 2 == 0 then q else q + 1

/-- The float with the given sign, biased exponent and fraction bits. -/
def floatOfFields (negative : Bool) (biased fraction : Nat) : Float :=
  Float.ofBits ((if negative then Nat.pow 2 63 else 0) + biased * Nat.pow 2 52 + fraction).toUInt64

/-- The float nearest to `num / den` with the given sign (`den > 0`). -/
def nearestFloat (negative : Bool) (num den : Nat) : Float :=
  if num = 0 then floatOfFields negative 0 0
  else
    let e2 := floorLog2 num den
    let shift : Int := max (e2 - 52) (-1074)
    let (n, d) := if 0 ≤ shift then (num, den * Nat.pow 2 shift.toNat) else (num * Nat.pow 2 (-shift).toNat, den)
    let m := roundHalfEven n d
    let (m, shift) := if m = Nat.pow 2 53 then (Nat.pow 2 52, shift + 1) else (m, shift)
    if m < Nat.pow 2 52 then floatOfFields negative 0 m
    else
      let biased := shift + 1075
      if biased ≥ 2047 then floatOfFields negative 2047 0
      else floatOfFields negative biased.toNat (m - Nat.pow 2 52)

/-- The float nearest to the decimal `digits * 10 ^ exponent`, with the given sign. Exponents
far outside the range of floats go straight to zero or infinity. -/
def toFloat (negative : Bool) (d : Decimal) : Float :=
  if d.digits = 0 then floatOfFields negative 0 0
  else
    let magnitude := (digitCount d.digits : Int) + d.exponent
    if magnitude > 330 then floatOfFields negative 2047 0
    else if magnitude < -330 then floatOfFields negative 0 0
    else
      let (n, den) := scaledRatio d.digits 10 d.exponent
      nearestFloat negative n den

end Decimal

end MemoryDashboard
