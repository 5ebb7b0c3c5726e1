import MemoryDashboard.Time.Instant
import MemoryDashboard.Decimal.Truncate
/-!
# Ages of timestamps

How long ago something happened, as the dashboard shows it. Whole seconds since a timestamp
are floored and never negative. The short age buckets seconds into `s`, `m`, `h` and `d` by
whole division. The relative time rounds (half away from zero) seconds, then minutes of
rounded seconds, then hours, then days: `just now` below 10 s, then `Ns ago`, `Nm ago`,
`Nh ago`, `Nd ago`, and the date itself from 14 days on.
-/

namespace MemoryDashboard

namespace Time

/-- Whole seconds from a timestamp to `now`, at least zero; none when it does not parse. -/
def secondsSince (value : Option String) (now : Instant) : Option Int :=
  value.bind fun raw =>
    (Instant.parse? raw).map fun t => max 0 ((now.millisSince t) / 1000)

/-- `Ns` below a minute, `Nm` below an hour, `Nh` below a day, else `Nd`; `n/a` when unknown. -/
def ageShort : Option Int → String
  | none => "n/a"
  | some s =>
    if s < 60 then toString s ++ "s"
    else if s < 3600 then toString (s.tdiv 60) ++ "m"
    else if s < 86400 then toString (s.tdiv 3600) ++ "h"
    else toString (s.tdiv 86400) ++ "d"

/-- `value / by` in float arithmetic, rounded half away from zero, as a whole number. -/
def roundedQuotient (value by_ : Int) : Int :=
  Decimal.toInt64Saturating (Float.ofInt value / Float.ofInt by_).round

/-- The relative time of a timestamp: `n/a` when missing or empty, the raw text when it does not
parse, the date from 14 days on. -/
def relativeText (value : Option String) (now : Instant) : String :=
  match value.filter (fun v => !v.isEmpty) with
  | none => "n/a"
  | some raw =>
    match Instant.parse? raw with
    | none => raw
    | some t =>
      let seconds := roundedQuotient (now.millisSince t) 1000
      if seconds < 10 then "just now"
      else if seconds < 60 then toString seconds ++ "s ago"
      else
        let minutes := roundedQuotient seconds 60
        if minutes < 60 then toString minutes ++ "m ago"
        else
          let hours := roundedQuotient minutes 60
          if hours < 24 then toString hours ++ "h ago"
          else
            let days := roundedQuotient hours 24
            if days < 14 then toString days ++ "d ago"
            else t.dateText

/-- A timestamp as `YYYY-MM-DD HH:MM:SS UTC`; `never` when missing or empty, the raw text when
it does not parse. -/
def timestampText (value : Option String) : String :=
  match value.filter (fun v => !v.isEmpty) with
  | none => "never"
  | some raw =>
    match Instant.parse? raw with
    | some t => t.displayText
    | none => raw

end Time

end MemoryDashboard
