import MemoryDashboard.Decimal.Basic
/-!
# The shortest decimal that reads back as a float

A positive float owns the interval of reals that round to it; its ends are the midpoints to
the two neighbouring floats, included exactly when the mantissa is even (reading rounds a tie to
the even mantissa). The shortest decimal of the float is the decimal with the fewest digits in
that interval, and of two such decimals the one nearer to the float.

For a number of digits `n`, the decimals with `n` digits near the float lie on the grid
`10 ^ (e - n + 1)`, where `e` is the float's decimal exponent; if any point of that grid lies in
the interval, so does one of the float's two neighbours on the grid. So each length needs only
two candidates, and seventeen digits always suffice.
-/

namespace MemoryDashboard

namespace Decimal

/-- The interval of reals that read back as a positive float, in the same units as its value:
`(low, value, high)` as fractions, each end included iff `inclusive`. -/
structure ReadInterval where
  low : Nat × Nat
  value : Nat × Nat
  high : Nat × Nat
  inclusive : Bool

/-- The interval owned by the float `mantissa * 2 ^ exponent`. -/
def ReadInterval.ofBinary (b : BinaryValue) : ReadInterval :=
  let m := b.mantissa
  { low := scaledRatio (if b.lowerCloser then 4 * m - 1 else 4 * m - 2) 2 (b.exponent - 2)
    value := scaledRatio (4 * m) 2 (b.exponent - 2)
    high := scaledRatio (4 * m + 2) 2 (b.exponent - 2)
    inclusive := m % 2 == 0 }

/-- Whether a fraction lies in the interval. -/
def ReadInterval.contains (r : ReadInterval) (x : Nat × Nat) : Bool :=
  if r.inclusive then ratioLe r.low x && ratioLe x r.high
  else ratioLt r.low x && ratioLt x r.high

/-- The decimal with `count` digits in the interval, if there is one: of the value's two
neighbours on the grid `10 ^ (e - count + 1)`, the one inside, or the nearer if both are, the
even one on an exact tie. -/
def candidate (r : ReadInterval) (e : Int) (count : Nat) : Option Decimal :=
  let k := e - count + 1
  let (vn, vd) := r.value
  let below :=
    if 0 ≤ k then vn / (vd * Nat.pow 10 k.toNat) else vn * Nat.pow 10 (-k).toNat / vd
  let above := below + 1
  let inBelow := r.contains (scaledRatio below 10 k)
  let inAbove := r.contains (scaledRatio above 10 k)
  if inBelow && inAbove then
    -- compare 2 * value with (2 * below + 1) * 10^k
    let mid := scaledRatio (2 * below + 1) 10 k
    let twice := (2 * vn, vd)
    if ratioLt twice mid then some ⟨below, k⟩
    else if ratioLt mid twice then some ⟨above, k⟩
    else if below % 2 == 0 then some ⟨below, k⟩ else some ⟨above, k⟩
  else if inBelow then some ⟨below, k⟩
  else if inAbove then some ⟨above, k⟩
  else none

/-- The shortest decimal of a positive finite float given by its exact value, trailing zeros
removed. A zero mantissa gives the decimal zero. -/
def shortestOfBinary (b : BinaryValue) : Decimal :=
  if b.mantissa = 0 then ⟨0, 0⟩
  else
    let r := ReadInterval.ofBinary b
    let e := floorLog10 r.value.1 r.value.2
    match (List.range 17).findSome? (fun i => candidate r e (i + 1)) with
    | some d => trim d
    -- not reached: seventeen digits always hit the interval
    | none => ⟨0, 0⟩

/-- The shortest decimal of the magnitude of a finite float. -/
def shortest (x : Float) : Decimal :=
  shortestOfBinary (BinaryValue.ofFloat x)

end Decimal

end MemoryDashboard
