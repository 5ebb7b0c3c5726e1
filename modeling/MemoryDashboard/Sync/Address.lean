import MemoryDashboard.Json.Lenient
import MemoryDashboard.Text.Classes
/-!
# Peer addresses

Peers are reached at addresses the service lists loosely: strings mostly, but any scalar is
shown by its text, and empty or repeated entries are left out. The primary address is the
first entry that is truthy, when that entry is a string.

When addresses are shown with redaction, every IPv4 address keeps its network prefix and hides
the host part: `192.168.1.20` becomes `192.168.#.#`. An address here is four runs of one to
three decimal digits joined by points, standing as a whole word: no word character touches it
on either side. Digits and word characters are those of Unicode, so `١٢.٣.٤.٥` is an address
too. Addresses are found from left to right without overlapping.
-/

namespace MemoryDashboard

namespace Sync

/-- Whether a character may be a word character before a position; none at the start. -/
def wordBefore : Option Char → Bool
  | some c => Text.isWordChar c
  | none => false

/-- A run of one to three decimal digits, taking every digit there is; none when there are
no digits or more than three. -/
def octet (cs : List Char) : Option (List Char × List Char) :=
  let ds := cs.takeWhile Text.isDecimalDigit
  if ds.isEmpty || ds.length > 3 then none else some (ds, cs.drop ds.length)

/-- An address at the start of the text, after a character that is not a word character: the
text of its first two octets, its last character and what follows the address. The address
must not be followed by a word character. -/
def addressAt (cs : List Char) : Option (List Char × Option Char × List Char) := do
  let (a, cs) ← octet cs
  let cs ← match cs with
    | '.' :: rest => some rest
    | _ => none
  let (b, cs) ← octet cs
  let cs ← match cs with
    | '.' :: rest => some rest
    | _ => none
  let (_, cs) ← octet cs
  let cs ← match cs with
    | '.' :: rest => some rest
    | _ => none
  let (d, cs) ← octet cs
  match cs with
  | c :: _ => if Text.isWordChar c then none else some (a ++ '.' :: b, d.getLast?, cs)
  | [] => some (a ++ '.' :: b, d.getLast?, cs)

/-- Redacts the addresses in a text, given the character before it in the text as it was;
`fuel` bounds the number of steps and is the length of the text. -/
def redactWith (fuel : Nat) (before : Option Char) (cs : List Char) : List Char :=
  match fuel, cs with
  | 0, _ => cs
  | _, [] => []
  | fuel + 1, c :: rest =>
    let found := if wordBefore before then none else addressAt (c :: rest)
    match found with
    | some (prefixOctets, last, after) =>
      prefixOctets ++ ".#.#".toList ++ redactWith fuel last after
    | none => c :: redactWith fuel (some c) rest

/-- Hides the host part of every IPv4 address in a text. -/
def redactOctets (text : String) : String :=
  String.ofList (redactWith text.length none text.toList)

/-- The texts of the non-empty addresses, first occurrence first. -/
def uniqueAddresses (addresses : List Json) : List String :=
  (addresses.filterMap Json.scalarText?).foldl
    (fun acc a => if a.isEmpty || acc.contains a then acc else acc ++ [a]) []

/-- The first truthy address, when it is a string. -/
def primaryAddress (addresses : List Json) : Option String :=
  (addresses.find? Json.isTruthy).bind Json.asString?

end Sync

end MemoryDashboard
