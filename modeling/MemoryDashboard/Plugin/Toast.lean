import MemoryDashboard.Json.Value
import MemoryDashboard.Decimal.Layout
import MemoryDashboard.Decimal.Truncate
/-!
# Injection toasts

After the plugin injects a memory pack it shows one line: `codemem injected`, then the number
of items, the pack's tokens, the work avoided and the change against the previous pack, each
only when known, joined by ` · `.

A count is a finite non-negative JSON number. Items and tokens are shown when positive. Avoided
work is shown when positive and more of its items are known than unknown (and some are known).
The change is shown when the metrics say it is available, as the numbers of added and removed
identifiers.

A whole number below 2^63 is written as an integer; any other number as its shortest decimal,
always positional (`3.5`, `0.00001`, `1000000000000000000000`).
-/

namespace MemoryDashboard

namespace Plugin

/-- A count in the metrics: a finite non-negative number. -/
def metricCount (metrics : Json) (key : String) : Option Float :=
  ((metrics.field? key).bind Json.asNumber?).map Number.toFloat |>.filter
    fun n => !n.isNaN && !n.isInf && n ≥ 0.0

/-- A count that is positive. -/
def metricPositive (metrics : Json) (key : String) : Option Float :=
  (metricCount metrics key).filter (· > 0.0)

/-- The number of identifiers in an array of the metrics; zero when it is not an array. -/
def idCount (metrics : Json) (key : String) : Nat :=
  (((metrics.field? key).bind Json.asArray?).map List.length).getD 0

/-- A count as text: an integer when it is whole and below 2^63, else its shortest decimal. -/
def countNumberText (n : Float) : String :=
  if n.floor == n && n < 9223372036854775808.0 then toString (Decimal.truncate n)
  else Decimal.floatText Decimal.Layout.plain n

/-- The toast line for optional metrics; metrics that are not an object say nothing. -/
def injectionToast (metrics : Option Json) : String :=
  let parts : List String :=
    match metrics with
    | some m@(.object _) =>
      let known := (metricCount m "avoided_work_known_items").getD 0.0
      let unknown := (metricCount m "avoided_work_unknown_items").getD 0.0
      ((metricPositive m "items").map fun n => countNumberText n ++ " items").toList ++
        ((metricPositive m "pack_tokens").map fun n => "~" ++ countNumberText n ++ " tokens").toList ++
        (((metricPositive m "avoided_work_tokens").filter fun _ => known > 0.0 && known ≥ unknown).map
          fun n => "avoided work ~" ++ countNumberText n ++ " tokens").toList ++
        (if (m.field? "pack_delta_available").bind Json.asBool? == some true then
          ["delta +" ++ toString (idCount m "added_ids") ++ "/-" ++ toString (idCount m "removed_ids")]
        else [])
    | _ => []
  " · ".intercalate ("codemem injected" :: parts)

end Plugin

end MemoryDashboard
