/-!
# Base64

The standard base64 alphabet with padding: every three bytes become four characters of six
bits each, and a last group of one or two bytes becomes two or three characters followed by
`=` up to four.
-/

namespace MemoryDashboard

namespace Text

/-- The character of a six-bit value: `A`–`Z`, `a`–`z`, `0`–`9`, `+`, `/`. -/
def base64Char (v : Nat) : Char :=
  if v < 26 then Char.ofNat ('A'.toNat + v)
  else if v < 52 then Char.ofNat ('a'.toNat + (v - 26))
  else if v < 62 then Char.ofNat ('0'.toNat + (v - 52))
  else if v = 62 then '+'
  else '/'

/-- The characters of the bytes, three at a time. -/
def base64Chars : List Nat → List Char
  | [] => []
  | [a] =>
    let n := a * 65536
    [base64Char (n / 262144 % 64), base64Char (n / 4096 % 64), '=', '=']
  | [a, b] =>
    let n := a * 65536 + b * 256
    [base64Char (n / 262144 % 64), base64Char (n / 4096 % 64), base64Char (n / 64 % 64), '=']
  | a :: b :: c :: rest =>
    let n := a * 65536 + b * 256 + c
    [base64Char (n / 262144 % 64), base64Char (n / 4096 % 64), base64Char (n / 64 % 64),
      base64Char (n % 64)] ++ base64Chars rest

/-- The base64 text of a string's UTF-8 bytes. -/
def base64 (s : String) : String :=
  String.ofList (base64Chars (s.toUTF8.toList.map UInt8.toNat))

end Text

end MemoryDashboard
