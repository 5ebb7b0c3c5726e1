import MemoryDashboard.Json.Read
import MemoryDashboard.Json.Write
import MemoryDashboard.Decimal.Read
import MemoryDashboard.Text.Blank
/-!
# Lenient readings of free-form values

Payloads from the service are loosely typed: a count may come as a number, a numeric string or
a boolean; a list may come as an array or as the JSON text of an array. These readings accept
every such spelling:

* `Json.lenientFloat?`: numbers, trimmed numeric strings, and booleans as 1 and 0; never a
  non-finite float;
* `Json.isTruthy`: false only for `null`, `false`, zero and the empty string;
* `Json.scalarText?`: the text of a string, number or boolean;
* `Json.arrayItems`: the items of an array, or of the array a non-empty string encodes.
-/

namespace MemoryDashboard

namespace Json

/-- A number, numeric string or boolean as a finite float. -/
def lenientFloat? (j : Json) : Option Float :=
  let raw : Option Float :=
    match j with
    | .number n => some n.toFloat
    | .string s => Decimal.readFloat? (Text.trim s)
    | .bool b => some (if b then 1.0 else 0.0)
    | _ => none
  raw.filter (fun x => !x.isNaN && !x.isInf)

/-- Loose truth: `null`, `false`, zero and `""` are false, everything else true. -/
def isTruthy : Json → Bool
  | .null => false
  | .bool b => b
  | .number n => n.toFloat != 0
  | .string s => !s.isEmpty
  | .array _ => true
  | .object _ => true

/-- The display text of a scalar: a string as it is, a number as JSON writes it, a boolean as
`true` or `false`; `none` for `null`, arrays and objects. -/
def scalarText? : Json → Option String
  | .string s => some s
  | .number n => some (numberText n)
  | .bool b => some (if b then "true" else "false")
  | _ => none

/-- The items of an array, or of the array that a non-empty string holds as JSON text;
anything else has no items. -/
def arrayItems : Json → List Json
  | .array items => items
  | .string s =>
    if s.isEmpty then []
    else
      match read s with
      | .ok (.array items) => items
      | _ => []
  | _ => []

end Json

end MemoryDashboard
