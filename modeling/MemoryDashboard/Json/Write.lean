import MemoryDashboard.Json.Value
import MemoryDashboard.Decimal.Layout
/-!
# Writing JSON text

Two forms: compact (no blanks at all) and pretty (two-space indent, one member or item per
line, `": "` after a key). Members come out in key order, as objects keep them. In strings, the
quote, the backslash and the control characters below U+0020 are escaped (`\n`, `\t`, ... and
`\u00XX` with lower-case hex for the rest); every other character is written as it is.
Floats use the shortest decimal in JSON layout (`Decimal.Layout.json`), and a float that is not
finite is written `null`.
-/

namespace MemoryDashboard

namespace Json

/-- The lower-case hex digit of a number below sixteen. -/
def hexDigit (n : Nat) : Char :=
  if n < 10 then Char.ofNat ('0'.toNat + n) else Char.ofNat ('a'.toNat + n - 10)

/-- The escaped form of one character inside a JSON string. -/
def escapeChar (c : Char) : String :=
  if c = '"' then "\\\""
  else if c = '\\' then "\\\\"
  else if c = '\n' then "\\n"
  else if c = '\r' then "\\r"
  else if c = '\t' then "\\t"
  else if c.toNat = 8 then "\\b"
  else if c.toNat = 12 then "\\f"
  else if c.toNat < 0x20 then
    "\\u00" ++ String.singleton (hexDigit (c.toNat / 16)) ++ String.singleton (hexDigit (c.toNat % 16))
  else String.singleton c

/-- A string in quotes with its special characters escaped. -/
def quote (s : String) : String :=
  "\"" ++ String.join (s.toList.map escapeChar) ++ "\""

/-- The text of a number. -/
def numberText : Number → String
  | .natural n => toString n
  | .negative n => toString n
  | .float x => if x.isNaN || x.isInf then "null" else Decimal.floatText Decimal.Layout.json x

mutual

/-- Compact JSON text. -/
def compact : Json → String
  | .null => "null"
  | .bool b => if b then "true" else "false"
  | .number n => numberText n
  | .string s => quote s
  | .array items => "[" ++ compactItems items ++ "]"
  | .object members => "\x7b" ++ compactMembers members ++ "\x7d"

/-- Compact items separated by commas. -/
def compactItems : List Json → String
  | [] => ""
  | [j] => compact j
  | j :: rest => compact j ++ "," ++ compactItems rest

/-- Compact members separated by commas. -/
def compactMembers : List (String × Json) → String
  | [] => ""
  | [(k, v)] => quote k ++ ":" ++ compact v
  | (k, v) :: rest => quote k ++ ":" ++ compact v ++ "," ++ compactMembers rest

end

/-- Two blanks per level. -/
def indent (level : Nat) : String := String.ofList (List.replicate (2 * level) ' ')

mutual

/-- Pretty JSON text at an indentation level (the first line is not indented). -/
def prettyAt (level : Nat) : Json → String
  | .array [] => "[]"
  | .object [] => "\x7b\x7d"
  | .array items => "[\n" ++ prettyItems (level + 1) items ++ "\n" ++ indent level ++ "]"
  | .object members => "\x7b\n" ++ prettyMembers (level + 1) members ++ "\n" ++ indent level ++ "\x7d"
  | .null => "null"
  | .bool b => if b then "true" else "false"
  | .number n => numberText n
  | .string s => quote s

/-- Pretty items, one per line. -/
def prettyItems (level : Nat) : List Json → String
  | [] => ""
  | [j] => indent level ++ prettyAt level j
  | j :: rest => indent level ++ prettyAt level j ++ ",\n" ++ prettyItems level rest

/-- Pretty members, one per line. -/
def prettyMembers (level : Nat) : List (String × Json) → String
  | [] => ""
  | [(k, v)] => indent level ++ quote k ++ ": " ++ prettyAt level v
  | (k, v) :: rest => indent level ++ quote k ++ ": " ++ prettyAt level v ++ ",\n" ++ prettyMembers level rest

end

/-- Pretty JSON text with two-space indentation. -/
def pretty (j : Json) : String := prettyAt 0 j

end Json

end MemoryDashboard
