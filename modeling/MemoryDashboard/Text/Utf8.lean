/-!
# Decoding UTF-8 with replacement

Bytes that should be UTF-8 text but may not be are decoded the forgiving way: every well-formed
sequence gives its character, and every maximal prefix of a sequence that cannot be completed
gives one replacement character `U+FFFD`. A prefix is cut at the first byte that cannot follow
it: a lead byte `C2`–`DF` takes one continuation byte, `E0`–`EF` two and `F0`–`F4` three, each
`80`–`BF`, except that the byte after `E0` is at least `A0`, after `ED` at most `9F`, after `F0`
at least `90` and after `F4` at most `8F`. Any other byte of `80` or more is a prefix of its own.
-/

namespace MemoryDashboard

namespace Text

/-- The replacement character. -/
def replacement : Char := '�'

/-- Whether a byte continues a sequence. -/
def isContinuation (b : UInt8) : Bool := 0x80 ≤ b && b ≤ 0xBF

/-- The range the second byte after a lead byte must fall in. -/
def secondRange (lead : UInt8) : Nat × Nat :=
  if lead = 0xE0 then (0xA0, 0xBF)
  else if lead = 0xED then (0x80, 0x9F)
  else if lead = 0xF0 then (0x90, 0xBF)
  else if lead = 0xF4 then (0x80, 0x8F)
  else (0x80, 0xBF)

/-- How many bytes follow a lead byte; none for a byte that leads nothing. -/
def followers (lead : UInt8) : Option Nat :=
  if lead < 0x80 then some 0
  else if 0xC2 ≤ lead && lead ≤ 0xDF then some 1
  else if 0xE0 ≤ lead && lead ≤ 0xEF then some 2
  else if 0xF0 ≤ lead && lead ≤ 0xF4 then some 3
  else none

/-- Takes the continuation bytes of a sequence: the first within `first`, the others any
continuation byte. Gives the bytes taken and whether all `n` were there. -/
def takeFollowers (first : Nat × Nat) : Nat → List UInt8 → List UInt8 × Bool
  | 0, _ => ([], true)
  | _ + 1, [] => ([], false)
  | n + 1, b :: rest =>
    if first.1 ≤ b.toNat && b.toNat ≤ first.2 then
      let (taken, complete) := takeFollowers (0x80, 0xBF) n rest
      (b :: taken, complete)
    else ([], false)

/-- The code point of a lead byte and its continuation bytes. -/
def codePoint (lead : UInt8) (tail : List UInt8) : Nat :=
  let leadBits :=
    if lead < 0x80 then lead.toNat
    else if lead < 0xE0 then lead.toNat % 0x20
    else if lead < 0xF0 then lead.toNat % 0x10
    else lead.toNat % 0x08
  tail.foldl (fun acc b => acc * 64 + b.toNat % 64) leadBits

/-- Decodes bytes, replacing what is not UTF-8. -/
def decodeLossy : List UInt8 → List Char
  | [] => []
  | b :: rest =>
    match followers b with
    | none => replacement :: decodeLossy rest
    | some n =>
      let (taken, complete) := takeFollowers (secondRange b) n rest
      let c := if complete then Char.ofNat (codePoint b taken) else replacement
      c :: decodeLossy (rest.drop taken.length)
termination_by bs => bs.length
decreasing_by
  all_goals simp only [List.length_cons, List.length_drop]
  all_goals omega

/-- The UTF-8 bytes of a text. -/
def utf8Bytes (s : String) : List UInt8 := s.toUTF8.toList

end Text

end MemoryDashboard
