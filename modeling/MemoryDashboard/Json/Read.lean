import MemoryDashboard.Json.Value
import MemoryDashboard.Decimal.Nearest
/-!
# Reading JSON text

The reader turns text into a `Located` tree: a JSON value whose nodes remember where they
start and end, so that a later decoding error can say where the offending value stands. A
syntax error says what was wrong and where, as `line` (from 1) and `column` (bytes read on
that line).

Numbers follow the service's reader exactly:

* a whole number that fits an unsigned 64-bit word stays whole, a negative one that fits a
  signed 64-bit word too, and `-0` is the float negative zero;
* other numbers keep at most the digits that fit a 64-bit significand, dropping later digits
  and counting them in the exponent, and are computed as that significand times or divided by
  a power of ten in float arithmetic (`Json.Read.floatOfParts`);
* a number whose magnitude overflows is an error, never infinity.

Containers nest without limit in the text, but a reader that decodes as it reads enters at
most 127 of them: a container that opens at the 128th level is marked `deep`, and decoding that
enters it fails there, while decoding that skips over it does not look at the mark.

Reading never gives up without a result: at the first syntax error it keeps the tree as far as
it was read, so that a decoder can walk the document in order and meet either a value that does
not fit or the place where the text stopped being JSON, whichever comes first.
-/

namespace MemoryDashboard

namespace Json

/-- A place in a text: line (from 1) and column (bytes read on that line). -/
structure TextPosition where
  line : Nat
  column : Nat
  deriving Inhabited, Repr, DecidableEq

/-- What a text that is not JSON does wrong. -/
inductive SyntaxError where
  | eofWhileParsingList
  | eofWhileParsingObject
  | eofWhileParsingString
  | eofWhileParsingValue
  | expectedColon
  | expectedListCommaOrEnd
  | expectedObjectCommaOrEnd
  | expectedSomeIdent
  | expectedSomeValue
  | invalidEscape
  | invalidNumber
  | numberOutOfRange
  | invalidUnicodeCodePoint
  | controlCharacterWhileParsingString
  | keyMustBeAString
  | loneLeadingSurrogateInHexEscape
  | trailingComma
  | trailingCharacters
  | unexpectedEndOfHexEscape
  | recursionLimitExceeded
  deriving Inhabited, DecidableEq, Repr

/-- The wording of a syntax error. -/
def SyntaxError.message : SyntaxError → String
  | .eofWhileParsingList => "EOF while parsing a list"
  | .eofWhileParsingObject => "EOF while parsing an object"
  | .eofWhileParsingString => "EOF while parsing a string"
  | .eofWhileParsingValue => "EOF while parsing a value"
  | .expectedColon => "expected `:`"
  | .expectedListCommaOrEnd => "expected `,` or `]`"
  | .expectedObjectCommaOrEnd => "expected `,` or `\x7d`"
  | .expectedSomeIdent => "expected ident"
  | .expectedSomeValue => "expected value"
  | .invalidEscape => "invalid escape"
  | .invalidNumber => "invalid number"
  | .numberOutOfRange => "number out of range"
  | .invalidUnicodeCodePoint => "invalid unicode code point"
  | .controlCharacterWhileParsingString =>
    "control character (\\u0000-\\u001F) found while parsing a string"
  | .keyMustBeAString => "key must be a string"
  | .loneLeadingSurrogateInHexEscape => "lone leading surrogate in hex escape"
  | .trailingComma => "trailing comma"
  | .trailingCharacters => "trailing characters"
  | .unexpectedEndOfHexEscape => "unexpected end of hex escape"
  | .recursionLimitExceeded => "recursion limit exceeded"

/-- A syntax error and where it was found. -/
structure ReadError where
  error : SyntaxError
  position : TextPosition
  deriving Inhabited

/-- `message at line L column C`. -/
def ReadError.message (e : ReadError) : String :=
  e.error.message ++ " at line " ++ toString e.position.line ++ " column " ++
    toString e.position.column

/-- A JSON value as read from text. Every node carries where it starts (the position before
its first character) and where it stops (the position after its last one); a tree built from
a value in memory has no positions. Object members keep their text order, repeats included,
each with the place its key stops (after the blanks that follow the key).

Reading stops at the first syntax error, and the tree then shows how far it got. The value
being read there is `broken`; every container around it is left open, without a stop. An error
between the values of a container (at a separator, a key or the closing bracket) is the
container's `tail`. An error between a key and its value (at the colon) is a member whose value
is `broken` before it began.

A container that opens at the 128th level of nesting is kept whole inside a `deep` mark that
holds the error for entering it. -/
inductive Located where
  | scalar (value : Json) (start stop : Option TextPosition)
  | array (items : List Located) (start stop : Option TextPosition) (tail : Option ReadError)
  | object (members : List (String × Option TextPosition × Located)) (start stop : Option TextPosition)
      (tail : Option ReadError)
  /-- A value whose reading failed, starting at `start`; `begun` tells whether the error was
  found within it or before it began. -/
  | broken (error : ReadError) (start : TextPosition) (begun : Bool)
  /-- A container nested too deep to be entered while decoding; `error` is where that fails. -/
  | deep (error : ReadError) (inner : Located)
  deriving Inhabited

mutual

/-- The value of a located tree; an object keeps the last value of a repeated key, and a value
that could not be read is null. -/
def Located.toJson : Located → Json
  | .scalar v _ _ => v
  | .array items _ _ _ => .array (Located.itemsToJson items)
  | .object members _ _ _ => .object (Members.ofList (Located.membersToJson members))
  | .broken _ _ _ => .null
  | .deep _ x => x.toJson

/-- The values of located items. -/
def Located.itemsToJson : List Located → List Json
  | [] => []
  | x :: rest => x.toJson :: Located.itemsToJson rest

/-- The values of located members. -/
def Located.membersToJson : List (String × Option TextPosition × Located) → List (String × Json)
  | [] => []
  | (k, _, x) :: rest => (k, x.toJson) :: Located.membersToJson rest

end

mutual

/-- A value in memory as a tree without positions. -/
def Located.ofJson : Json → Located
  | .array items => .array (Located.ofItems items) none none none
  | .object members => .object (Located.ofMembers members) none none none
  | v => .scalar v none none

/-- Items without positions. -/
def Located.ofItems : List Json → List Located
  | [] => []
  | x :: rest => Located.ofJson x :: Located.ofItems rest

/-- Members without positions. -/
def Located.ofMembers : List (String × Json) → List (String × Option TextPosition × Located)
  | [] => []
  | (k, x) :: rest => (k, none, Located.ofJson x) :: Located.ofMembers rest

end

/-- Members as read: key, where the key stops, value. -/
abbrev LocatedMembers := List (String × Option TextPosition × Located)

/-- Where a node starts. -/
def Located.start : Located → Option TextPosition
  | .scalar _ s _ => s
  | .array _ s _ _ => s
  | .object _ s _ _ => s
  | .broken _ s _ => some s
  | .deep _ x => x.start

/-- Where a node stops; nowhere for a node whose reading did not end. -/
def Located.stop : Located → Option TextPosition
  | .scalar _ _ e => e
  | .array _ _ e _ => e
  | .object _ _ e _ => e
  | .broken _ _ _ => none
  | .deep _ x => x.stop

mutual

/-- Where reading stopped within a node, if it did. -/
def Located.firstStop? : Located → Option ReadError
  | .scalar _ _ _ => none
  | .broken e _ _ => some e
  | .array items _ _ tail => (firstStopOfItems items).or tail
  | .object members _ _ tail => (firstStopOfMembers members).or tail
  | .deep _ x => x.firstStop?

/-- Where reading stopped within some items, if it did. -/
def firstStopOfItems : List Located → Option ReadError
  | [] => none
  | x :: rest => x.firstStop?.or (firstStopOfItems rest)

/-- Where reading stopped within some member values, if it did. -/
def firstStopOfMembers : LocatedMembers → Option ReadError
  | [] => none
  | (_, _, x) :: rest => x.firstStop?.or (firstStopOfMembers rest)

end

mutual

/-- The first error met when reading a node in full and entering every container in it: where
reading stopped, or a container nested too deep, whichever comes first in the text. -/
def Located.firstFault? : Located → Option ReadError
  | .scalar _ _ _ => none
  | .broken e _ _ => some e
  | .array items _ _ tail => (firstFaultOfItems items).or tail
  | .object members _ _ tail => (firstFaultOfMembers members).or tail
  | .deep e _ => some e

/-- The first error met in some items. -/
def firstFaultOfItems : List Located → Option ReadError
  | [] => none
  | x :: rest => x.firstFault?.or (firstFaultOfItems rest)

/-- The first error met in some member values. -/
def firstFaultOfMembers : LocatedMembers → Option ReadError
  | [] => none
  | (_, _, x) :: rest => x.firstFault?.or (firstFaultOfMembers rest)

end

namespace Read

/-- The unread rest of the text and the position before it. -/
structure Cursor where
  rest : List Char
  line : Nat
  column : Nat

/-- The position before the unread rest. -/
def Cursor.position (c : Cursor) : TextPosition := ⟨c.line, c.column⟩

/-- The position one byte into the next character, where errors about a character that was
looked at but not taken are reported; at the end of the text, the end. -/
def Cursor.peekPosition (c : Cursor) : TextPosition :=
  match c.rest with
  | [] => c.position
  | ch :: _ => if ch = '\n' then ⟨c.line + 1, 0⟩ else ⟨c.line, c.column + 1⟩

/-- The next character, if any. -/
def Cursor.peek? (c : Cursor) : Option Char := c.rest.head?

/-- Takes one character. -/
def Cursor.advance (c : Cursor) : Cursor :=
  match c.rest with
  | [] => c
  | ch :: rest =>
    { rest
      line := if ch = '\n' then c.line + 1 else c.line
      column := if ch = '\n' then 0 else c.column + ch.utf8Size }

/-- Skips blanks: space, tab, line feed and carriage return. -/
def skipBlank (c : Cursor) : Cursor :=
  match h : c.rest with
  | [] => c
  | ch :: _ =>
    if ch = ' ' || ch = '\n' || ch = '\t' || ch = '\r' then
      have : c.advance.rest.length < c.rest.length := by
        simp [Cursor.advance, h]
      skipBlank c.advance
    else c
termination_by c.rest.length

/-- Fails with a syntax error at a position. -/
def fail {α : Type} (error : SyntaxError) (position : TextPosition) : Except ReadError α :=
  .error ⟨error, position⟩

/-- Reads the rest of a keyword (`null`, `true`, `false`) after its first letter. -/
def readWord (expected : List Char) (c : Cursor) : Except ReadError Cursor :=
  match expected with
  | [] => .ok c
  | e :: more =>
    match c.peek? with
    | none => fail .eofWhileParsingValue c.position
    | some ch =>
      let c := c.advance
      if ch = e then readWord more c else fail .expectedSomeIdent c.position

/-- The value of a hex digit. -/
def hexValue? (ch : Char) : Option Nat :=
  if '0' ≤ ch && ch ≤ '9' then some (ch.toNat - '0'.toNat)
  else if 'a' ≤ ch && ch ≤ 'f' then some (ch.toNat - 'a'.toNat + 10)
  else if 'A' ≤ ch && ch ≤ 'F' then some (ch.toNat - 'A'.toNat + 10)
  else none

/-- Reads the four hex digits of a `\u` escape. -/
def readHex4 (c : Cursor) : Except ReadError (Nat × Cursor) :=
  if c.rest.length < 4 then
    fail .eofWhileParsingString (c.rest.foldl (fun (p : Cursor) _ => p.advance) c).position
  else
    let step (acc : Except ReadError (Nat × Cursor)) (_ : Nat) : Except ReadError (Nat × Cursor) :=
      acc.bind fun (n, c) =>
        match c.peek? with
        | none => fail .eofWhileParsingString c.position
        | some ch =>
          let c := c.advance
          match hexValue? ch with
          | some v => .ok (n * 16 + v, c)
          | none => fail .invalidEscape c.position
    [0, 1, 2, 3].foldl step (.ok (0, c))

/-- Reads one escape after its backslash, returning the character it stands for. -/
def readEscape (c : Cursor) : Except ReadError (Char × Cursor) :=
  match c.peek? with
  | none => fail .eofWhileParsingString c.position
  | some ch =>
    let c := c.advance
    if ch = '"' then .ok ('"', c)
    else if ch = '\\' then .ok ('\\', c)
    else if ch = '/' then .ok ('/', c)
    else if ch = 'b' then .ok (Char.ofNat 8, c)
    else if ch = 'f' then .ok (Char.ofNat 12, c)
    else if ch = 'n' then .ok ('\n', c)
    else if ch = 'r' then .ok ('\r', c)
    else if ch = 't' then .ok ('\t', c)
    else if ch = 'u' then do
      let (n1, c) ← readHex4 c
      if 0xDC00 ≤ n1 && n1 ≤ 0xDFFF then fail .loneLeadingSurrogateInHexEscape c.position
      else if 0xD800 ≤ n1 && n1 ≤ 0xDBFF then
        match c.peek? with
        | none => fail .eofWhileParsingString c.position
        | some b =>
          if b != '\\' then fail .unexpectedEndOfHexEscape c.position
          else
            let c := c.advance
            match c.peek? with
            | none => fail .eofWhileParsingString c.position
            | some u =>
              if u != 'u' then fail .unexpectedEndOfHexEscape c.position
              else do
                let (n2, c) ← readHex4 c.advance
                if n2 < 0xDC00 || n2 > 0xDFFF then fail .loneLeadingSurrogateInHexEscape c.position
                else .ok (Char.ofNat (((n1 - 0xD800) * 1024 + (n2 - 0xDC00)) + 0x10000), c)
      else .ok (Char.ofNat n1, c)
    else fail .invalidEscape c.position

/-- Reads the characters of a string after its opening quote, up to and including the closing
quote. -/
def readStringBody (acc : List Char) (c : Cursor) : Except ReadError (String × Cursor) :=
  match h : c.rest with
  | [] => fail .eofWhileParsingString c.position
  | ch :: _ =>
    have hlen : c.advance.rest.length < c.rest.length := by simp [Cursor.advance, h]
    if ch = '"' then .ok (String.ofList acc.reverse, c.advance)
    else if ch = '\\' then
      match readEscape c.advance with
      | .error e => .error e
      | .ok (decoded, c') =>
        if c'.rest.length < c.rest.length then readStringBody (decoded :: acc) c'
        else fail .eofWhileParsingString c'.position
    else if ch.toNat < 0x20 then fail .controlCharacterWhileParsingString c.advance.position
    else readStringBody (ch :: acc) c.advance
termination_by c.rest.length

/-- The largest unsigned 64-bit word. -/
def wordMax : Nat := Nat.pow 2 64 - 1

/-- The largest signed 32-bit integer, the bound of exponents. -/
def exponentMax : Int := Int.pow 2 31 - 1

/-- Clamps an exponent to the signed 32-bit range. -/
def clampExponent (e : Int) : Int := max (-(Int.pow 2 31)) (min exponentMax e)

/-- The float nearest to `10 ^ i`. -/
def powerOfTen (i : Nat) : Float := Decimal.toFloat false ⟨1, i⟩

/-- `significand * 10 ^ exponent` in float arithmetic: the significand rounded to a float, then
multiplied or divided by the float power of ten; below `10^-308` the division is repeated.
`none` when the result overflows. -/
def floatOfParts (negative : Bool) (significand : Nat) (exponent : Int) : Option Float :=
  let start := significand.toUInt64.toFloat
  let rec go (fuel : Nat) (f : Float) (e : Int) : Option Float :=
    if e.natAbs ≤ 308 then
      if 0 ≤ e then
        let g := f * powerOfTen e.toNat
        if g.isInf then none else some g
      else some (f / powerOfTen e.natAbs)
    else
      match fuel with
      | 0 => some f
      | fuel + 1 =>
        if f == 0 then some f
        else if 0 ≤ e then none
        else go fuel (f / powerOfTen 308) (e + 308)
  (go 8 start exponent).map fun f => if negative then -f else f

/-- Whether appending a digit to `n` would pass `bound`. -/
def overflows (n digit bound : Nat) : Bool :=
  n ≥ bound / 10 && (n > bound / 10 || digit > bound % 10)

/-- Skips digits. -/
def skipDigits (c : Cursor) : Cursor :=
  match h : c.rest with
  | [] => c
  | ch :: _ =>
    if ch.isDigit then
      have : c.advance.rest.length < c.rest.length := by simp [Cursor.advance, h]
      skipDigits c.advance
    else c
termination_by c.rest.length

/-- Reads the digits of an exponent after the first one. -/
def exponentDigits (exp : Nat) (c : Cursor) : Nat × Bool × Cursor :=
  match h : c.rest with
  | [] => (exp, false, c)
  | ch :: _ =>
    if ch.isDigit then
      let d := ch.toNat - '0'.toNat
      if overflows exp d exponentMax.toNat then (exp, true, c.advance)
      else
        have : c.advance.rest.length < c.rest.length := by simp [Cursor.advance, h]
        exponentDigits (exp * 10 + d) c.advance
    else (exp, false, c)
termination_by c.rest.length

/-- Reads the digits of an exponent after its sign, and computes the float. -/
def readExponentDigits (negative : Bool) (significand : Nat) (start : Int) (positiveExp : Bool)
    (c : Cursor) : Except ReadError (Float × Cursor) :=
  match c.peek? with
  | none => fail .eofWhileParsingValue c.position
  | some ch =>
    let c := c.advance
    if !ch.isDigit then fail .invalidNumber c.position
    else
      let (exp, overflowed, c) := exponentDigits (ch.toNat - '0'.toNat) c
      if overflowed then
        if significand != 0 && positiveExp then fail .numberOutOfRange c.position
        else
          let c := skipDigits c
          .ok ((if negative then -0.0 else 0.0), c)
      else
        let final := clampExponent (if positiveExp then start + exp else start - exp)
        match floatOfParts negative significand final with
        | some f => .ok (f, c)
        | none => fail .numberOutOfRange c.position

/-- Reads an exponent after its `e`, and computes the float. -/
def readExponent (negative : Bool) (significand : Nat) (start : Int) (c : Cursor) :
    Except ReadError (Float × Cursor) :=
  match c.peek? with
  | some '+' => readExponentDigits negative significand start true c.advance
  | some '-' => readExponentDigits negative significand start false c.advance
  | _ => readExponentDigits negative significand start true c

/-- Reads fraction digits while they fit the significand. -/
def fractionDigits (significand : Nat) (count : Nat) (c : Cursor) : Nat × Nat × Bool × Cursor :=
  match h : c.rest with
  | [] => (significand, count, false, c)
  | ch :: _ =>
    if ch.isDigit then
      let d := ch.toNat - '0'.toNat
      if overflows significand d wordMax then (significand, count, true, c)
      else
        have : c.advance.rest.length < c.rest.length := by simp [Cursor.advance, h]
        fractionDigits (significand * 10 + d) (count + 1) c.advance
    else (significand, count, false, c)
termination_by c.rest.length

/-- Finishes a number after its significand and exponent offset: an exponent may follow. -/
def finishFloat (negative : Bool) (significand : Nat) (exponent : Int) (c : Cursor) :
    Except ReadError (Float × Cursor) :=
  match c.peek? with
  | some 'e' | some 'E' => readExponent negative significand exponent c.advance
  | _ =>
    match floatOfParts negative significand exponent with
    | some f => .ok (f, c)
    | none => fail .numberOutOfRange c.position

/-- Reads a fraction after its point. -/
def readFraction (negative : Bool) (significand : Nat) (before : Int) (c : Cursor) :
    Except ReadError (Float × Cursor) :=
  let (significand, count, overflowed, c) := fractionDigits significand 0 c
  if overflowed then
    finishFloat negative significand (before - count) (skipDigits c)
  else if count = 0 then
    match c.peek? with
    | some _ => fail .invalidNumber c.peekPosition
    | none => fail .eofWhileParsingValue c.peekPosition
  else finishFloat negative significand (before - count) c

/-- Counts the digits of a whole number past those that fit the significand. -/
def extraDigits (count : Nat) (c : Cursor) : Nat × Cursor :=
  match h : c.rest with
  | [] => (count, c)
  | ch :: _ =>
    if ch.isDigit then
      have : c.advance.rest.length < c.rest.length := by simp [Cursor.advance, h]
      extraDigits (count + 1) c.advance
    else (count, c)
termination_by c.rest.length

/-- Reads the rest of a whole number whose next digit no longer fits the significand: the
remaining digits only scale the value, and a fraction or an exponent may follow. -/
def readScaled (negative : Bool) (significand : Nat) (c : Cursor) :
    Except ReadError (Float × Cursor) :=
  let (extra, c) := extraDigits 0 c
  match c.peek? with
  | some '.' => readFraction negative significand extra c.advance
  | _ => finishFloat negative significand extra c

/-- The value of a number written as digits alone, after an optional minus sign: unsigned
without the sign; with it, the signed word, or the float negative zero for `-0`, or a float past
the signed range. -/
def wholeNumber (negative : Bool) (significand : Nat) : Number :=
  if !negative then .natural significand
  else if significand = 0 then .float (-0.0)
  else if significand ≤ Nat.pow 2 63 then .negative (-(significand : Int))
  else .float (-(significand.toUInt64.toFloat))

/-- After the digits of a whole number: a point or an exponent makes it a float, otherwise it
is a whole number (`wholeNumber`). -/
def finishNumber (negative : Bool) (significand : Nat) (c : Cursor) :
    Except ReadError (Number × Cursor) :=
  match c.peek? with
  | some '.' => (readFraction negative significand 0 c.advance).map fun (f, c) => (.float f, c)
  | some 'e' | some 'E' =>
    (readExponent negative significand 0 c.advance).map fun (f, c) => (.float f, c)
  | _ => .ok (wholeNumber negative significand, c)

/-- Reads the digits of a whole number after its first one. -/
def integerDigits (negative : Bool) (significand : Nat) (c : Cursor) :
    Except ReadError (Number × Cursor) :=
  match h : c.rest with
  | [] => finishNumber negative significand c
  | ch :: _ =>
    if ch.isDigit then
      let d := ch.toNat - '0'.toNat
      if overflows significand d wordMax then
        (readScaled negative significand c).map fun (f, c) => (.float f, c)
      else
        have : c.advance.rest.length < c.rest.length := by simp [Cursor.advance, h]
        integerDigits negative (significand * 10 + d) c.advance
    else finishNumber negative significand c
termination_by c.rest.length

/-- Reads a number after its optional minus sign. -/
def readNumber (negative : Bool) (c : Cursor) : Except ReadError (Number × Cursor) :=
  match c.peek? with
  | none => fail .eofWhileParsingValue c.position
  | some ch =>
    if ch = '0' then
      let c := c.advance
      match c.peek? with
      | some d => if d.isDigit then fail .invalidNumber c.peekPosition else finishNumber negative 0 c
      | none => finishNumber negative 0 c
    else if ch.isDigit then integerDigits negative (ch.toNat - '0'.toNat) c.advance
    else fail .invalidNumber c.advance.position

/-- Marks a container that opens at cursor `c` when no more containers may open there: entering
it fails one byte into its opening bracket. -/
def tooDeep (depth : Nat) (c : Cursor) (x : Located) : Located :=
  if depth ≤ 1 then .deep ⟨.recursionLimitExceeded, c.peekPosition⟩ x else x

mutual

/-- Reads one value after blanks: the value and the cursor after it, or, when reading stops
inside it, the syntax error and the value as far as it was read. `depth` counts the containers
that may still open before one is marked `deep`, and `fuel` bounds the work by the length of
the text. -/
def readValue (fuel depth : Nat) (c : Cursor) : Except (ReadError × Located) (Located × Cursor) :=
  match fuel with
  | 0 =>
    let e : ReadError := ⟨.recursionLimitExceeded, c.position⟩
    .error (e, .broken e c.position true)
  | fuel + 1 =>
    let c := skipBlank c
    let start := c.position
    let scalar (r : Except ReadError (Json × Cursor)) : Except (ReadError × Located) (Located × Cursor) :=
      match r with
      | .ok (v, c) => .ok (.scalar v start c.position, c)
      | .error e => .error (e, .broken e start true)
    match c.peek? with
    | none => scalar (fail .eofWhileParsingValue c.peekPosition)
    | some 'n' => scalar ((readWord ['u', 'l', 'l'] c.advance).map fun c => (.null, c))
    | some 't' => scalar ((readWord ['r', 'u', 'e'] c.advance).map fun c => (.bool true, c))
    | some 'f' => scalar ((readWord ['a', 'l', 's', 'e'] c.advance).map fun c => (.bool false, c))
    | some '-' => scalar ((readNumber true c.advance).map fun (n, c) => (.number n, c))
    | some '"' => scalar ((readStringBody [] c.advance).map fun (s, c) => (.string s, c))
    | some '[' =>
      let mark := tooDeep depth c
      match readItems fuel (depth - 1) true [] c.advance with
      | .ok (items, c) =>
        -- the loop stops before the closing bracket
        let c := (skipBlank c).advance
        .ok (mark (.array items start c.position none), c)
      | .error (e, items, between) =>
        .error (e, mark (.array items start none (if between then some e else none)))
    | some '{' =>
      let mark := tooDeep depth c
      match readMembers fuel (depth - 1) true [] c.advance with
      | .ok (members, c) =>
        let c := (skipBlank c).advance
        .ok (mark (.object members start c.position none), c)
      | .error (e, members, between) =>
        .error (e, mark (.object members start none (if between then some e else none)))
    | some ch =>
      if ch.isDigit then scalar ((readNumber false c).map fun (n, c) => (.number n, c))
      else scalar (fail .expectedSomeValue c.peekPosition)

/-- Reads the items of an array up to its closing bracket, which is left unread. When reading
stops, gives the syntax error, the items as far as they were read, and whether it stopped
between items. -/
def readItems (fuel depth : Nat) (first : Bool) (acc : List Located) (c : Cursor) :
    Except (ReadError × List Located × Bool) (List Located × Cursor) :=
  match fuel with
  | 0 => .error (⟨.recursionLimitExceeded, c.position⟩, acc.reverse, true)
  | fuel + 1 =>
    let c := skipBlank c
    let between (error : SyntaxError) (position : TextPosition) :
        Except (ReadError × List Located × Bool) (List Located × Cursor) :=
      .error (⟨error, position⟩, acc.reverse, true)
    let item (c : Cursor) : Except (ReadError × List Located × Bool) (List Located × Cursor) :=
      match readValue fuel depth c with
      | .ok (x, c) => readItems fuel depth false (x :: acc) c
      | .error (e, x) => .error (e, (x :: acc).reverse, false)
    match c.peek? with
    | some ']' => .ok (acc.reverse, c)
    | some ',' =>
      -- a leading comma is where the first item should be
      if first then item c
      else
        let c := skipBlank c.advance
        match c.peek? with
        | some ']' => between .trailingComma c.peekPosition
        | none => between .eofWhileParsingValue c.peekPosition
        | some _ => item c
    | some _ => if first then item c else between .expectedListCommaOrEnd c.peekPosition
    | none => between .eofWhileParsingList c.peekPosition

/-- Reads the members of an object up to its closing brace, which is left unread. When reading
stops, gives the syntax error, the members as far as they were read, and whether it stopped
between members. -/
def readMembers (fuel depth : Nat) (first : Bool) (acc : LocatedMembers) (c : Cursor) :
    Except (ReadError × LocatedMembers × Bool) (LocatedMembers × Cursor) :=
  match fuel with
  | 0 => .error (⟨.recursionLimitExceeded, c.position⟩, acc.reverse, true)
  | fuel + 1 =>
    let c := skipBlank c
    let between (error : SyntaxError) (position : TextPosition) :
        Except (ReadError × LocatedMembers × Bool) (LocatedMembers × Cursor) :=
      .error (⟨error, position⟩, acc.reverse, true)
    let member (c : Cursor) : Except (ReadError × LocatedMembers × Bool) (LocatedMembers × Cursor) :=
      match c.peek? with
      | some '"' =>
        match readStringBody [] c.advance with
        | .error e => .error (e, acc.reverse, true)
        | .ok (key, c) =>
          let c := skipBlank c
          let keyStop := c.position
          let noColon (error : SyntaxError) :
              Except (ReadError × LocatedMembers × Bool) (LocatedMembers × Cursor) :=
            let e : ReadError := ⟨error, c.peekPosition⟩
            .error (e, ((key, some keyStop, .broken e c.position false) :: acc).reverse, false)
          match c.peek? with
          | some ':' =>
            match readValue fuel depth c.advance with
            | .ok (value, c) => readMembers fuel depth false ((key, some keyStop, value) :: acc) c
            | .error (e, value) => .error (e, ((key, some keyStop, value) :: acc).reverse, false)
          | some _ => noColon .expectedColon
          | none => noColon .eofWhileParsingObject
      | some '}' => between .trailingComma c.peekPosition
      | some _ => between .keyMustBeAString c.peekPosition
      | none => between .eofWhileParsingValue c.peekPosition
    match c.peek? with
    | some '}' => .ok (acc.reverse, c)
    | some ',' =>
      if first then between .keyMustBeAString c.peekPosition
      else member (skipBlank c.advance)
    | some _ =>
      if first then member c else between .expectedObjectCommaOrEnd c.peekPosition
    | none => between .eofWhileParsingObject c.peekPosition

end

/-- A cursor at the start of a text. -/
def Cursor.ofString (text : String) : Cursor := { rest := text.toList, line := 1, column := 0 }

end Read

/-- Reads the first value of a text: the value and the rest of the text, unread; or, when
reading stops inside it, the syntax error and the value as far as it was read. -/
def readPrefix (text : String) : Except (ReadError × Located) (Located × Read.Cursor) :=
  Read.readValue (3 * text.length + 8) 128 (Read.Cursor.ofString text)

/-- Whether only blanks follow; otherwise the error for trailing characters. -/
def Read.Cursor.finish (c : Read.Cursor) : Except ReadError Unit :=
  let c := Read.skipBlank c
  match c.peek? with
  | none => .ok ()
  | some _ => .error ⟨.trailingCharacters, c.peekPosition⟩

/-- Reads a text that holds exactly one JSON value, with positions, entering every container:
the first error is where reading stopped or a container nested too deep, whichever comes
first. -/
def readLocated (text : String) : Except ReadError Located :=
  match readPrefix text with
  | .error (e, soFar) => .error (soFar.firstFault?.getD e)
  | .ok (value, c) =>
    match value.firstFault? with
    | some e => .error e
    | none => c.finish.map fun () => value

/-- Reads a text that holds exactly one JSON value. -/
def read (text : String) : Except ReadError Json :=
  (readLocated text).map Located.toJson

end Json

end MemoryDashboard
