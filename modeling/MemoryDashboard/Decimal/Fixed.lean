import MemoryDashboard.Decimal.Nearest
import MemoryDashboard.Decimal.Layout
/-!
# Fixed places

A float written with a fixed number of places is its exact binary value rounded to that many
decimal places, a tie going to the even last digit. Because the exact value is used, `0.35`
(slightly below 0.35 in binary) keeps `0.3` at one place, while `0.25` (exact) goes to `0.2`.
-/

namespace MemoryDashboard

namespace Decimal

/-- The digits of `n` with a point before the last `places` of them, padded with zeros so that
at least one digit stands before the point. -/
def withPoint (places n : Nat) : String :=
  if places = 0 then digitText n
  else
    let s := digitText n
    let s := zeros (places + 1 - s.length) ++ s
    let cut := s.length - places
    String.ofList (s.toList.take cut) ++ "." ++ String.ofList (s.toList.drop cut)

/-- A float with `places` decimal places, rounding its exact value half to even. Not-a-number
and the infinities are `NaN`, `inf` and `-inf`. -/
def fixedText (places : Nat) (x : Float) : String :=
  if x.isNaN then "NaN"
  else if x.isInf then (if x < 0 then "-inf" else "inf")
  else
    let b := BinaryValue.ofFloat x
    let (num, den) := scaledRatio (b.mantissa * Nat.pow 10 places) 2 b.exponent
    (if b.negative then "-" else "") ++ withPoint places (roundHalfEven num den)

end Decimal

end MemoryDashboard
