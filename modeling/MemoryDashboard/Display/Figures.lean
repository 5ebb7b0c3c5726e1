import MemoryDashboard.Decimal.Fixed
import MemoryDashboard.Decimal.Read
import MemoryDashboard.Decimal.Truncate
import MemoryDashboard.Text.Blank
/-!
# Percentages and multipliers

How shares and ratios of tokens are shown. A share is a rounded whole percentage (`73%`); the
reduction from memory reuse is the share of saved tokens among saved and read ones; the
multiplier is `(saved + read) / read`, with no places from 10 up and one place below (`1.5x`,
`10x`). Anything not finite, or a non-positive total, shows as `n/a`.
-/

namespace MemoryDashboard

namespace Display

/-- Whether a float is finite. -/
def isFinite (x : Float) : Bool := !x.isNaN && !x.isInf

/-- A share as a rounded whole percentage, `n/a` when missing or not finite. -/
def percentText (share : Option Float) : String :=
  match share.filter isFinite with
  | some v => toString (Decimal.toInt64Saturating (v * 100.0).round) ++ "%"
  | none => "n/a"

/-- The context multiplier `(saved + read) / read`: `n/a` unless both are finite and reading is
positive and the factor finite and positive; no places from 10 up, one place below. -/
def multiplierText (saved read : Float) : String :=
  if !isFinite saved || !isFinite read || read ≤ 0.0 then "n/a"
  else
    let factor := (saved + read) / read
    if !isFinite factor || factor ≤ 0.0 then "n/a"
    else if factor ≥ 10.0 then Decimal.fixedText 0 factor ++ "x"
    else Decimal.fixedText 1 factor ++ "x"

/-- The share of saved tokens among all, as a rounded percentage; none when an input is not
finite, the total is not positive, or the share is not finite. -/
def reductionPercent (saved read : Float) : Option Float :=
  if !isFinite saved || !isFinite read then none
  else
    let total := saved + read
    if total ≤ 0.0 then none
    else
      let share := saved / total
      if isFinite share then some (share * 100.0).round else none

/-- The reduction as `N%`, or `n/a`. -/
def reductionText (saved read : Float) : String :=
  match reductionPercent saved read with
  | some p => toString (Decimal.toInt64Saturating p) ++ "%"
  | none => "n/a"

/-- The value of a percentage label: the trimmed text must end in `%`, and what stands before
it, trimmed, must be a finite float. -/
def percentValue? (label : String) : Option Float :=
  let t := Text.trim label
  if t.endsWith "%" then
    let body := Text.trim (String.ofList (t.toList.dropLast))
    (Decimal.readFloat? body).filter isFinite
  else none

end Display

end MemoryDashboard
