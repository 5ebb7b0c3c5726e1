import MemoryDashboard.Decimal.Shortest
/-!
# Writing the shortest decimal of a float

The digits are always the shortest ones that read back (`Decimal.shortest`); a layout decides
where the point goes. Two layouts are in use:

* `Layout.json`, for numbers inside JSON text: positional while the point stays within sixteen
  places of the first digit and no more than five zeros follow it, a whole number keeps `.0`, and
  otherwise one digit before the point and a signed exponent after `e`, as in `1e+20` or
  `1.5e-7`.
* `Layout.plain`, for numbers in messages: always positional, with no `.0` on a whole number,
  as in `1000000000000000000000` or `0.0000001`.
-/

namespace MemoryDashboard

namespace Decimal

/-- Where the point of a shortest decimal goes. The point position is the number of digits
before the point: `digits` has `len` digits and value `digits * 10 ^ k`, so the point stands
after `len + k` of them. -/
structure Layout where
  /-- The greatest point position written positionally, or `none` for no limit. -/
  maxPoint : Option Int
  /-- The least point position written positionally, or `none` for no limit. -/
  minPoint : Option Int
  /-- Whether a whole number is written with `.0`. -/
  pointZero : Bool
  /-- Whether a non-negative exponent is written with `+`. -/
  exponentPlus : Bool

/-- Numbers inside JSON text. -/
def Layout.json : Layout :=
  { maxPoint := some 16, minPoint := some (-4), pointZero := true, exponentPlus := true }

/-- Numbers in messages: always positional. -/
def Layout.plain : Layout :=
  { maxPoint := none, minPoint := none, pointZero := false, exponentPlus := false }

/-- `n` zero digits. -/
def zeros (n : Nat) : String := String.ofList (List.replicate n '0')

/-- The text of a non-negative decimal in a layout. -/
def render (layout : Layout) (d : Decimal) : String :=
  let s := digitText d.digits
  let len : Int := s.length
  let k := d.exponent
  let point := len + k
  let withinHigh := layout.maxPoint.all (fun top => point ≤ top)
  let withinLow := layout.minPoint.all (fun bottom => bottom ≤ point)
  if 0 ≤ k && withinHigh then
    s ++ zeros k.toNat ++ (if layout.pointZero then ".0" else "")
  else if 0 < point && withinHigh then
    String.ofList (s.toList.take point.toNat) ++ "." ++ String.ofList (s.toList.drop point.toNat)
  else if point ≤ 0 && withinLow then
    "0." ++ zeros (-point).toNat ++ s
  else
    let exp := "e" ++ (if layout.exponentPlus && 0 ≤ point - 1 then "+" else "") ++ toString (point - 1)
    if s.length = 1 then s ++ exp
    else String.ofList (s.toList.take 1) ++ "." ++ String.ofList (s.toList.drop 1) ++ exp

/-- The text of a float in a layout: a minus sign for a negative float (negative zero
included), then the shortest decimal. Not-a-number and the infinities are `NaN`, `inf` and
`-inf`. -/
def floatText (layout : Layout) (x : Float) : String :=
  if x.isNaN then "NaN"
  else if x.isInf then (if x < 0 then "-inf" else "inf")
  else
    let b := BinaryValue.ofFloat x
    (if b.negative then "-" else "") ++ render layout (shortestOfBinary b)

end Decimal

end MemoryDashboard
