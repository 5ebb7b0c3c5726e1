import MemoryDashboard.Time.Calendar
import MemoryDashboard.Text.Blank
/-!
# Instants and timestamp texts

An instant is a day, a second of that day and the nanoseconds past it. The nanoseconds reach
past one second only in a leap second, which is kept as the 59th second plus a second's worth
of nanoseconds and printed as second 60.

The service writes timestamps in three forms, tried in this order after trimming blanks:

* RFC 3339: `YYYY-MM-DD`, then `T`, `t` or a space, `HH:MM:SS`, an optional fraction after a
  point, and `Z`, `z` or an offset `+HH:MM` / `-HH:MM` of less than a day;
* a date and time without offset, with `T` or blanks between them (`Time.readLocal`), read as
  UTC;
* a bare date `YYYY-MM-DD`, read as UTC midnight.

In the last two forms each number may have fewer digits (`2025-1-1`) and blanks before it, and
the year may carry a sign and more digits. A fraction keeps nine digits and ignores the rest.
-/

namespace MemoryDashboard

namespace Time

/-- A moment in UTC. -/
structure Instant where
  /-- Days since 1970-01-01. -/
  day : Int
  /-- Seconds since midnight, below 86400. -/
  second : Nat
  /-- Nanoseconds past the second, below two seconds' worth (a leap second). -/
  nanos : Nat
  deriving Inhabited, DecidableEq, Repr

/-- Whole seconds since 1970-01-01T00:00:00Z (a leap second counts as the second before). -/
def Instant.unixSeconds (t : Instant) : Int := t.day * 86400 + t.second

/-- Milliseconds since 1970-01-01T00:00:00Z, counting the nanoseconds of a leap second too. -/
def Instant.millis (t : Instant) : Int := t.unixSeconds * 1000 + (t.nanos / 1000000 : Nat)

/-- The instant `seconds` after the epoch with the given nanoseconds. -/
def Instant.ofUnix (seconds : Int) (nanos : Nat) : Instant :=
  { day := seconds / 86400, second := (seconds % 86400).toNat, nanos }

/-- The time from `earlier` to `later` in nanoseconds. A leap second of the earlier instant
counts when the later one is on a later second of the day, and the later instant's leap second
is dropped when it is on an earlier second of the day. -/
def Instant.nanosSince (later earlier : Instant) : Int :=
  let daySeconds : Int := (later.day - earlier.day) * 86400
  let secs : Int := (later.second : Int) - earlier.second
  let adjust : Int :=
    if later.second > earlier.second && earlier.nanos ≥ 1000000000 then 1
    else if later.second < earlier.second && later.nanos ≥ 1000000000 then -1
    else 0
  (daySeconds + secs + adjust) * 1000000000 + ((later.nanos : Int) - earlier.nanos)

/-- The time from `earlier` to `later` in whole milliseconds, rounded toward zero. -/
def Instant.millisSince (later earlier : Instant) : Int :=
  (later.nanosSince earlier).tdiv 1000000

/-- The civil date of an instant. -/
def Instant.date (t : Instant) : Date := Date.ofDays t.day

/-- A number with at least `width` digits, zero-padded. -/
def padded (width : Nat) (n : Nat) : String :=
  let s := toString n
  String.ofList (List.replicate (width - s.length) '0') ++ s

/-- A year as four digits, or with a sign and at least four digits outside 0 to 9999. -/
def yearText (year : Int) : String :=
  if 0 ≤ year && year ≤ 9999 then padded 4 year.toNat
  else (if year < 0 then "-" else "+") ++ padded 4 year.natAbs

/-- `YYYY-MM-DD`. -/
def Instant.dateText (t : Instant) : String :=
  let d := t.date
  yearText d.year ++ "-" ++ padded 2 d.month ++ "-" ++ padded 2 d.day

/-- `HH:MM:SS`, with second 60 during a leap second. -/
def Instant.clockText (t : Instant) : String :=
  let leap := if t.nanos ≥ 1000000000 then 1 else 0
  padded 2 (t.second / 3600) ++ ":" ++ padded 2 (t.second / 60 % 60) ++ ":" ++
    padded 2 (t.second % 60 + leap)

/-- `YYYY-MM-DDTHH:MM:SS.nnnnnnnnnZ`. -/
def Instant.utcText (t : Instant) : String :=
  t.dateText ++ "T" ++ t.clockText ++ "." ++ padded 9 (t.nanos % 1000000000) ++ "Z"

/-- `YYYY-MM-DD HH:MM:SS UTC`. -/
def Instant.displayText (t : Instant) : String :=
  t.dateText ++ " " ++ t.clockText ++ " UTC"

/-- The fields read from a timestamp text before they are checked. -/
structure Fields where
  date : Date
  hour : Nat := 0
  minute : Nat := 0
  second : Nat := 0
  nanos : Nat := 0
  /-- The offset east of UTC, in seconds. -/
  offset : Int := 0

/-- The instant of checked fields: a valid date, hour below 24, minute below 60, second up to
60 (a leap second), and a year from -262143 to 262142, the range of the calendar's dates. -/
def Fields.toInstant? (f : Fields) : Option Instant :=
  if f.date.isValid && f.hour < 24 && f.minute < 60 && f.second ≤ 60 then
    let (second, extra) := if f.second = 60 then (59, 1000000000) else (f.second, 0)
    let wallClock : Int := f.date.toDays * 86400 + (f.hour * 3600 + f.minute * 60 + second : Nat)
    let t := Instant.ofUnix (wallClock - f.offset) (f.nanos + extra)
    if -262143 ≤ t.date.year && t.date.year ≤ 262142 then some t else none
  else none

/-- The value of ASCII digits. -/
def digitsValue (ds : List Char) : Nat :=
  ds.foldl (fun acc c => acc * 10 + (c.toNat - '0'.toNat)) 0

/-- Exactly `count` ASCII digits. -/
def exactDigits (count : Nat) (cs : List Char) : Option (Nat × List Char) :=
  let ds := cs.take count
  if ds.length = count && ds.all Char.isDigit then some (digitsValue ds, cs.drop count) else none

/-- One to `most` ASCII digits, as many as there are. -/
def someDigits (most : Nat) (cs : List Char) : Option (Nat × List Char) :=
  let ds := (cs.takeWhile Char.isDigit).take most
  if ds.isEmpty then none else some (digitsValue ds, cs.drop ds.length)

/-- One expected character. -/
def literal (c : Char) : List Char → Option (List Char)
  | d :: rest => if c = d then some rest else none
  | [] => none

/-- A fraction after its point: at least one digit; nine are kept, the rest ignored. -/
def fraction (cs : List Char) : Option (Nat × List Char) :=
  let ds := cs.takeWhile Char.isDigit
  if ds.isEmpty then none
  else
    let kept := ds.take 9
    some (digitsValue kept * Nat.pow 10 (9 - kept.length), cs.drop ds.length)

/-- An optional fraction: a point must be followed by digits. -/
def optionalFraction (cs : List Char) : Option (Nat × List Char) :=
  match cs with
  | '.' :: rest => fraction rest
  | _ => some (0, cs)

/-- An RFC 3339 offset: `Z`, `z`, or a sign (`+`, `-` or the minus sign U+2212) then
`HH:MM`, less than a day. -/
def offset (cs : List Char) : Option (Int × List Char) :=
  match cs with
  | 'Z' :: rest => some (0, rest)
  | 'z' :: rest => some (0, rest)
  | c :: rest =>
    let negative := c = '-' || c = Char.ofNat 0x2212
    if c = '+' || negative then do
      let (h, rest) ← exactDigits 2 rest
      let rest ← literal ':' rest
      let (m, rest) ← exactDigits 2 rest
      if m < 60 && h * 60 + m ≤ 23 * 60 + 59 then
        let total : Int := (h * 3600 + m * 60 : Nat)
        some (if negative then -total else total, rest)
      else none
    else none
  | [] => none

/-- Reads an RFC 3339 timestamp. -/
def readRfc3339 (cs : List Char) : Option Instant := do
  let (year, cs) ← exactDigits 4 cs
  let cs ← literal '-' cs
  let (month, cs) ← exactDigits 2 cs
  let cs ← literal '-' cs
  let (day, cs) ← exactDigits 2 cs
  let cs ← match cs with
    | c :: rest => if c = 'T' || c = 't' || c = ' ' then some rest else none
    | [] => none
  let (hour, cs) ← exactDigits 2 cs
  let cs ← literal ':' cs
  let (minute, cs) ← exactDigits 2 cs
  let cs ← literal ':' cs
  let (second, cs) ← exactDigits 2 cs
  let (nanos, cs) ← optionalFraction cs
  let (off, cs) ← offset cs
  if cs.isEmpty then
    Fields.toInstant? { date := ⟨year, month, day⟩, hour, minute, second, nanos, offset := off }
  else none

/-- A number field of the forms without offset: blanks before it, then one to `most` digits. -/
def looseNumber (most : Nat) (cs : List Char) : Option (Nat × List Char) :=
  someDigits most (cs.dropWhile Text.isBlank)

/-- A year of the forms without offset: blanks, then a sign and any number of digits, or one to
four digits. -/
def looseYear (cs : List Char) : Option (Int × List Char) :=
  match cs.dropWhile Text.isBlank with
  | '-' :: rest => (someDigits rest.length rest).map fun (v, r) => (-(v : Int), r)
  | '+' :: rest => (someDigits rest.length rest).map fun (v, r) => ((v : Int), r)
  | rest => (someDigits 4 rest).map fun (v, r) => ((v : Int), r)

/-- A date `Y-M-D` of the forms without offset. -/
def looseDate (cs : List Char) : Option (Date × List Char) := do
  let (year, cs) ← looseYear cs
  let cs ← literal '-' cs
  let (month, cs) ← looseNumber 2 cs
  let cs ← literal '-' cs
  let (day, cs) ← looseNumber 2 cs
  some (⟨year, month, day⟩, cs)

/-- Reads a date and time without offset; the date and the time are separated by `T`
(`withT`) or by any blanks, none included. -/
def readLocal (withT : Bool) (cs : List Char) : Option Instant := do
  let (date, cs) ← looseDate cs
  let cs ← if withT then literal 'T' cs else some (cs.dropWhile Text.isBlank)
  let (hour, cs) ← looseNumber 2 cs
  let cs ← literal ':' cs
  let (minute, cs) ← looseNumber 2 cs
  let cs ← literal ':' cs
  let (second, cs) ← looseNumber 2 cs
  let (nanos, cs) ← optionalFraction cs
  if cs.isEmpty then Fields.toInstant? { date, hour, minute, second, nanos } else none

/-- Reads a bare date as its midnight. -/
def readDate (cs : List Char) : Option Instant := do
  let (date, cs) ← looseDate cs
  if cs.isEmpty then Fields.toInstant? { date } else none

/-- Reads a timestamp in any of the three forms, after trimming blanks. -/
def Instant.parse? (raw : String) : Option Instant :=
  let cs := (Text.trim raw).toList
  if cs.isEmpty then none
  else (readRfc3339 cs).orElse fun _ =>
    (readLocal true cs).orElse fun _ =>
      (readLocal false cs).orElse fun _ => readDate cs

end Time

end MemoryDashboard
