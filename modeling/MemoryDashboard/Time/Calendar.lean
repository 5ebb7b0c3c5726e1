/-!
# The proleptic Gregorian calendar

Days are counted from 1970-01-01 (day 0), backwards as negative numbers. A year is a leap year
when divisible by 4, except centuries not divisible by 400. The conversion between a day number
and a civil date works in eras of 400 years (146097 days), within which the calendar repeats.
-/

namespace MemoryDashboard

namespace Time

/-- Whether a year is a leap year. -/
def isLeapYear (year : Int) : Bool :=
  year % 4 == 0 && (year % 100 != 0 || year % 400 == 0)

/-- The number of days of a month (1 to 12) in a year. -/
def daysInMonth (year : Int) (month : Nat) : Nat :=
  if month = 2 then (if isLeapYear year then 29 else 28)
  else if month = 4 || month = 6 || month = 9 || month = 11 then 30
  else 31

/-- A civil date. -/
structure Date where
  year : Int
  month : Nat
  day : Nat
  deriving Inhabited, DecidableEq, Repr

/-- Whether a date exists: month 1 to 12, day within the month. -/
def Date.isValid (d : Date) : Bool :=
  1 ≤ d.month && d.month ≤ 12 && 1 ≤ d.day && d.day ≤ daysInMonth d.year d.month

/-- The day number of a date (days since 1970-01-01). -/
def Date.toDays (d : Date) : Int :=
  let y : Int := if d.month ≤ 2 then d.year - 1 else d.year
  let era := y / 400
  let yoe := y - era * 400
  let m : Int := d.month
  let mp : Int := if m > 2 then m - 3 else m + 9
  let doy := (153 * mp + 2) / 5 + (d.day : Int) - 1
  let doe := yoe * 365 + yoe / 4 - yoe / 100 + doy
  era * 146097 + doe - 719468

/-- The date of a day number. -/
def Date.ofDays (days : Int) : Date :=
  let z := days + 719468
  let era := z / 146097
  let doe := z - era * 146097
  let yoe := (doe - doe / 1460 + doe / 36524 - doe / 146096) / 365
  let y := yoe + era * 400
  let doy := doe - (365 * yoe + yoe / 4 - yoe / 100)
  let mp := (5 * doy + 2) / 153
  let d := doy - (153 * mp + 2) / 5 + 1
  let m := if mp < 10 then mp + 3 else mp - 9
  { year := if m ≤ 2 then y + 1 else y, month := m.toNat, day := d.toNat }

end Time

end MemoryDashboard
