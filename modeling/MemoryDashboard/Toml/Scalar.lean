import MemoryDashboard.Json.Value
import MemoryDashboard.Decimal.Read
import MemoryDashboard.Time.Calendar
/-!
# TOML scalars

The pieces of TOML 1.1 text below the level of values: keys, the four kinds of string,
integers, floats and date-times. Each reader takes the text from a position and gives the
value read and the rest, or nothing when the text there is not valid TOML.

* Strings: basic strings with escapes (`\b \t \n \f \r \e \" \\ \xXX \uXXXX \UXXXXXXXX`), literal
  strings without escapes, and their multi-line forms, where a line break right after the
  opening delimiter is dropped, up to two quotes may end the content, and in the basic form a
  backslash at the end of a line removes the line break and the blanks and line breaks after
  it. Control characters other than tab (and line breaks in multi-line strings) are not
  allowed.
* Integers: decimal with an optional sign and no leading zero, or `0x`, `0o`, `0b` with digits
  of that base; single underscores may stand between digits; the value must fit 64 signed bits.
* Floats: a decimal integer part, then a fraction, an exponent or both; or `inf` and `nan`
  with an optional sign.
* Date-times: a date `YYYY-MM-DD`, a time `HH:MM` with optional seconds `:SS` and, after them,
  an optional fraction, or a date and a time joined by `T`, `t` or a space with an optional
  offset `Z` or `±HH:MM`.
* Keys: bare or quoted parts joined by points, at most `nestingLimit` of them.

The readers that loop take a `fuel` bound; one step per character read is enough, and the
document reader gives a bound from the length of the text.
-/

namespace MemoryDashboard

namespace Toml

/-- Text still to be read. -/
abbrev Input := List Char

/-- Drops spaces and tabs. -/
def skipBlanks (cs : Input) : Input := cs.dropWhile fun c => c = ' ' || c = '\t'

/-- A line break: a line feed, or a carriage return and a line feed. -/
def lineBreak? : Input → Option Input
  | '\n' :: rest => some rest
  | '\r' :: '\n' :: rest => some rest
  | _ => none

/-- A character allowed in comments and literal strings: tab, printable ASCII, or anything
beyond ASCII. -/
def isTextChar (c : Char) : Bool := c = '\t' || (c.toNat ≥ 0x20 && c.toNat != 0x7F)

/-- A comment from `#` to the end of the line, which is not consumed. -/
def comment? : Input → Option Input
  | '#' :: rest =>
    let body := rest.takeWhile fun c => c != '\n' && c != '\r'
    if body.all isTextChar then some (rest.drop body.length) else none
  | _ => none

/-- Blanks and an optional comment. -/
def skipBlanksAndComment (cs : Input) : Option Input :=
  let cs := skipBlanks cs
  match cs with
  | '#' :: _ => comment? cs
  | _ => some cs

/-- The value of a hexadecimal digit. -/
def hexValue? (c : Char) : Option Nat :=
  if '0' ≤ c && c ≤ '9' then some (c.toNat - '0'.toNat)
  else if 'a' ≤ c && c ≤ 'f' then some (c.toNat - 'a'.toNat + 10)
  else if 'A' ≤ c && c ≤ 'F' then some (c.toNat - 'A'.toNat + 10)
  else none

/-- The character of hexadecimal digits naming a Unicode scalar value. -/
def codePoint? (ds : List Char) : Option Char := do
  let n ← ds.foldlM (fun acc c => (hexValue? c).map (acc * 16 + ·)) 0
  if n < 0xD800 || (0xE000 ≤ n && n ≤ 0x10FFFF) then some (Char.ofNat n) else none

/-- An escape after a backslash: the character it stands for and the rest. -/
def escape? : Input → Option (Char × Input)
  | 'b' :: rest => some (Char.ofNat 8, rest)
  | 't' :: rest => some ('\t', rest)
  | 'n' :: rest => some ('\n', rest)
  | 'f' :: rest => some (Char.ofNat 12, rest)
  | 'r' :: rest => some ('\r', rest)
  | 'e' :: rest => some (Char.ofNat 0x1B, rest)
  | '"' :: rest => some ('"', rest)
  | '\\' :: rest => some ('\\', rest)
  | 'x' :: rest =>
    if rest.length ≥ 2 then (codePoint? (rest.take 2)).map (·, rest.drop 2) else none
  | 'u' :: rest =>
    if rest.length ≥ 4 then (codePoint? (rest.take 4)).map (·, rest.drop 4) else none
  | 'U' :: rest =>
    if rest.length ≥ 8 then (codePoint? (rest.take 8)).map (·, rest.drop 8) else none
  | _ => none

/-- The body of a basic string after its opening quote, up to and past the closing quote. -/
def basicBody (fuel : Nat) (acc : List Char) (cs : Input) : Option (String × Input) :=
  match fuel with
  | 0 => none
  | fuel + 1 =>
    match cs with
    | [] => none
    | '"' :: rest => some (String.ofList acc.reverse, rest)
    | '\\' :: rest => do
      let (c, rest) ← escape? rest
      basicBody fuel (c :: acc) rest
    | c :: rest => if isTextChar c then basicBody fuel (c :: acc) rest else none

/-- Drops blanks and line breaks, as after a backslash ending a line. -/
def skipBlankLines (cs : Input) : Input :=
  cs.dropWhile fun c => c = ' ' || c = '\t' || c = '\n' || c = '\r'

/-- The body of a multi-line string after its opening delimiter, up to and past the closing
one; `escapes` tells a basic string (with escapes) from a literal one. -/
def multiLineBody (fuel : Nat) (quote : Char) (escapes : Bool) (acc : List Char) (cs : Input) :
    Option (String × Input) :=
  match fuel with
  | 0 => none
  | fuel + 1 =>
    match cs with
    | [] => none
    | c :: rest =>
      if c = quote then
        let run := (cs.takeWhile (· = quote)).length
        if run < 3 then multiLineBody fuel quote escapes (List.replicate run quote ++ acc) (cs.drop run)
        else if run ≤ 5 then
          some (String.ofList (List.replicate (run - 3) quote ++ acc).reverse, cs.drop run)
        else none
      else if c = '\\' && escapes then
        match lineBreak? (skipBlanks rest) with
        | some _ => multiLineBody fuel quote escapes acc (skipBlankLines rest)
        | none => do
          let (e, rest) ← escape? rest
          multiLineBody fuel quote escapes (e :: acc) rest
      else if c = '\n' then multiLineBody fuel quote escapes ('\n' :: acc) rest
      else if c = '\r' then
        match rest with
        | '\n' :: more => multiLineBody fuel quote escapes ('\n' :: '\r' :: acc) more
        | _ => none
      else if isTextChar c then multiLineBody fuel quote escapes (c :: acc) rest
      else none

/-- The body of a literal string after its opening quote, up to and past the closing quote. -/
def literalBody (cs : Input) : Option (String × Input) :=
  let body := cs.takeWhile fun c => c != '\'' && isTextChar c
  match cs.drop body.length with
  | '\'' :: rest => some (String.ofList body, rest)
  | _ => none

/-- A string of any of the four kinds. -/
def string? (fuel : Nat) : Input → Option (String × Input)
  | '"' :: '"' :: '"' :: rest =>
    multiLineBody fuel '"' true [] ((lineBreak? rest).getD rest)
  | '"' :: rest => basicBody fuel [] rest
  | '\'' :: '\'' :: '\'' :: rest =>
    multiLineBody fuel '\'' false [] ((lineBreak? rest).getD rest)
  | '\'' :: rest => literalBody rest
  | _ => none

/-- A single-line string used as a key. -/
def quotedKey? (fuel : Nat) : Input → Option (String × Input)
  | '"' :: rest => basicBody fuel [] rest
  | '\'' :: rest => literalBody rest
  | _ => none

/-- A character of a bare key. -/
def isBareKeyChar (c : Char) : Bool := c.isAlphanum || c = '-' || c = '_'

/-- One part of a key: bare or quoted. -/
def simpleKey? (fuel : Nat) (cs : Input) : Option (String × Input) :=
  let bare := cs.takeWhile isBareKeyChar
  if bare.isEmpty then quotedKey? fuel cs else some (String.ofList bare, cs.drop bare.length)

/-- The parts of a key: simple keys joined by points, with blanks allowed around the points. -/
def keyParts? (fuel : Nat) (cs : Input) : Option (List String × Input) :=
  match fuel with
  | 0 => none
  | fuel + 1 => do
    let (first, rest) ← simpleKey? fuel cs
    match skipBlanks rest with
    | '.' :: more =>
      let (others, rest) ← keyParts? fuel (skipBlanks more)
      some (first :: others, rest)
    | _ => some ([first], rest)

/-- How deep a document may nest: the most parts a key may have, and the most arrays and
inline tables a value may stand in. -/
def nestingLimit : Nat := 80

/-- A key of at most `nestingLimit` parts. -/
def key? (fuel : Nat) (cs : Input) : Option (List String × Input) := do
  let (parts, rest) ← keyParts? fuel cs
  if parts.length ≤ nestingLimit then some (parts, rest) else none

/-- Digits of a base with single underscores between them, none leading or trailing. -/
def groupedDigits? (isDigit : Char → Bool) (cs : List Char) : Option (List Char) :=
  match cs with
  | [] => none
  | first :: _ =>
    if !isDigit first || cs.getLast? == some '_' then none
    else
      let pairsOk := (cs.zip cs.tail).all fun (a, b) => !(a = '_' && b = '_')
      if pairsOk && cs.all (fun c => isDigit c || c = '_') then some (cs.filter (· != '_'))
      else none

/-- The value of digits in a base. -/
def digitsValue (base : Nat) (ds : List Char) : Nat :=
  ds.foldl (fun acc c => acc * base + ((hexValue? c).getD 0)) 0

/-- An unsigned decimal integer part: `0`, or digits without a leading zero. -/
def decimalPart? (cs : List Char) : Option (List Char) := do
  let ds ← groupedDigits? Char.isDigit cs
  if ds.length > 1 && ds.head? == some '0' then none else some ds

/-- Whether a whole number fits 64 signed bits. -/
def fitsSigned (n : Int) : Bool := -(Int.pow 2 63) ≤ n && n < Int.pow 2 63

/-- Reads an integer token. -/
def integer? (tok : List Char) : Option Int :=
  let based (base : Nat) (isDigit : Char → Bool) (ds : List Char) : Option Int := do
    let ds ← groupedDigits? isDigit ds
    let n : Int := digitsValue base ds
    if fitsSigned n then some n else none
  match tok with
  | '0' :: 'x' :: ds => based 16 (fun c => (hexValue? c).isSome) ds
  | '0' :: 'o' :: ds => based 8 (fun c => '0' ≤ c && c ≤ '7') ds
  | '0' :: 'b' :: ds => based 2 (fun c => c = '0' || c = '1') ds
  | _ =>
    let (negative, body) := match tok with
      | '-' :: rest => (true, rest)
      | '+' :: rest => (false, rest)
      | _ => (false, tok)
    do
      let ds ← decimalPart? body
      let n : Int := if negative then -(digitsValue 10 ds : Int) else digitsValue 10 ds
      if fitsSigned n then some n else none

/-- Reads a float token: a decimal integer part with a fraction, an exponent or both, or
`inf` and `nan` with an optional sign. -/
def float? (tok : List Char) : Option Float :=
  let (sign, body) := match tok with
    | '-' :: rest => ("-", rest)
    | '+' :: rest => ("", rest)
    | _ => ("", tok)
  match body with
  | ['i', 'n', 'f'] => Decimal.readFloat? (sign ++ "inf")
  | ['n', 'a', 'n'] => Decimal.readFloat? (sign ++ "nan")
  | _ =>
    let intPart := body.takeWhile fun c => c != '.' && c != 'e' && c != 'E'
    let afterInt := body.drop intPart.length
    let (frac, afterFrac) : Option (List Char) × List Char := match afterInt with
      | '.' :: rest =>
        let f := rest.takeWhile fun c => c != 'e' && c != 'E'
        (some f, rest.drop f.length)
      | _ => (none, afterInt)
    let exp : Option (Option (List Char)) := match afterFrac with
      | c :: rest =>
        if c = 'e' || c = 'E' then
          let (esign, digits) := match rest with
            | '-' :: more => (['-'], more)
            | '+' :: more => (['+'], more)
            | _ => ([], rest)
          some ((groupedDigits? Char.isDigit digits).map (esign ++ ·))
        else some none
      | [] => none
    do
      let ip ← decimalPart? intPart
      let fp ← match frac with
        | some f => (groupedDigits? Char.isDigit f).map some
        | none => some none
      let ep ← match exp with
        | none => some none
        | some (some e) => some (some e)
        | some none => none
      if fp.isNone && ep.isNone then none
      else
        let text := sign ++ String.ofList ip ++ (fp.map (fun f => "." ++ String.ofList f)).getD "" ++
          (ep.map (fun e => "e" ++ String.ofList e)).getD ""
        Decimal.readFloat? text

/-- Exactly `n` ASCII digits and their value. -/
def fixedDigits? (n : Nat) (cs : List Char) : Option (Nat × List Char) :=
  let ds := cs.take n
  if ds.length = n && ds.all Char.isDigit then some (digitsValue 10 ds, cs.drop n) else none

/-- One expected character. -/
def expect? (c : Char) : List Char → Option (List Char)
  | d :: rest => if c = d then some rest else none
  | [] => none

/-- A date `YYYY-MM-DD` naming a day of the calendar. -/
def date? (cs : List Char) : Option (List Char) := do
  let (year, cs) ← fixedDigits? 4 cs
  let cs ← expect? '-' cs
  let (month, cs) ← fixedDigits? 2 cs
  let cs ← expect? '-' cs
  let (day, cs) ← fixedDigits? 2 cs
  if (Time.Date.mk year month day).isValid then some cs else none

/-- Seconds `:SS` with an optional fraction after them; a leap second is allowed. -/
def seconds? (cs : List Char) : Option (List Char) := do
  let cs ← expect? ':' cs
  let (second, cs) ← fixedDigits? 2 cs
  if second > 60 then none
  match cs with
  | '.' :: rest =>
    let ds := rest.takeWhile Char.isDigit
    if ds.isEmpty then none else some (rest.drop ds.length)
  | _ => some cs

/-- A time `HH:MM` with optional seconds. -/
def time? (cs : List Char) : Option (List Char) := do
  let (hour, cs) ← fixedDigits? 2 cs
  let cs ← expect? ':' cs
  let (minute, cs) ← fixedDigits? 2 cs
  if hour > 23 || minute > 59 then none
  match cs with
  | ':' :: _ => seconds? cs
  | _ => some cs

/-- An optional offset: `Z`, `z` or `±HH:MM`. -/
def offset? (cs : List Char) : Option (List Char) :=
  match cs with
  | 'Z' :: rest => some rest
  | 'z' :: rest => some rest
  | c :: rest =>
    if c = '+' || c = '-' then do
      let (hour, rest) ← fixedDigits? 2 rest
      let rest ← expect? ':' rest
      let (minute, rest) ← fixedDigits? 2 rest
      if hour > 23 || minute > 59 then none else some rest
    else some cs
  | [] => some cs

/-- A date-time, date or time at the start of the text: its text and the rest. -/
def dateTime? (cs : Input) : Option (String × Input) :=
  let finish (rest : Input) : String × Input :=
    (String.ofList (cs.take (cs.length - rest.length)), rest)
  match date? cs with
  | some afterDate =>
    match afterDate with
    | c :: more =>
      if c = 'T' || c = 't' || (c = ' ' && (time? more).isSome) then do
        let rest ← time? more
        let rest ← offset? rest
        some (finish rest)
      else some (finish afterDate)
    | [] => some (finish afterDate)
  | none => (time? cs).map finish

end Toml

end MemoryDashboard
