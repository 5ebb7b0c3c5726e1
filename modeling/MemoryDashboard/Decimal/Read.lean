import MemoryDashboard.Decimal.Nearest
/-!
# Reading a float from text

The float grammar of configuration values and labels: an optional sign, then `inf`,
`infinity` or `nan` in any case, or digits with an optional point and an optional exponent.
At least one digit must stand before or after the point, and an exponent needs digits. The
value is the decimal rounded to the nearest float (`Decimal.toFloat`).
-/

namespace MemoryDashboard

namespace Decimal

/-- Splits leading ASCII digits off a list of characters. -/
def spanDigits (cs : List Char) : List Char × List Char :=
  (cs.takeWhile Char.isDigit, cs.dropWhile Char.isDigit)

/-- The natural number written by ASCII digits. -/
def digitsValue (ds : List Char) : Nat :=
  ds.foldl (fun acc c => acc * 10 + (c.toNat - '0'.toNat)) 0

/-- Reads an exponent part: optional sign then at least one digit, and nothing after. -/
def readExponent (cs : List Char) : Option Int :=
  let (negative, rest) :=
    match cs with
    | '+' :: r => (false, r)
    | '-' :: r => (true, r)
    | r => (false, r)
  let (ds, after) := spanDigits rest
  if ds.isEmpty || !after.isEmpty then none
  else
    let v : Int := digitsValue ds
    some (if negative then -v else v)

/-- Reads the unsigned decimal part of a float text. -/
def readUnsigned (cs : List Char) : Option Decimal :=
  let (whole, rest) := spanDigits cs
  let (fraction, rest) :=
    match rest with
    | '.' :: r => spanDigits r
    | r => ([], r)
  if whole.isEmpty && fraction.isEmpty then none
  else
    let exponent : Option Int :=
      match rest with
      | [] => some 0
      | c :: r => if c = 'e' || c = 'E' then readExponent r else none
    -- a point with no digit after it is allowed ("1."), a stray character is not
    exponent.map fun e =>
      { digits := digitsValue (whole ++ fraction), exponent := e - fraction.length }

/-- The lower-case form of an ASCII word, for the named values. -/
def asciiLower (cs : List Char) : List Char := cs.map Char.toLower

/-- Reads a float text, or `none` when it does not follow the grammar. -/
def readFloat? (text : String) : Option Float :=
  let cs := text.toList
  let (negative, body) :=
    match cs with
    | '+' :: r => (false, r)
    | '-' :: r => (true, r)
    | r => (false, r)
  let word := asciiLower body
  if word = "inf".toList || word = "infinity".toList then
    some (if negative then -(1.0 / 0.0) else 1.0 / 0.0)
  else if word = "nan".toList then some (0.0 / 0.0)
  else (readUnsigned body).map (toFloat negative)

end Decimal

end MemoryDashboard
