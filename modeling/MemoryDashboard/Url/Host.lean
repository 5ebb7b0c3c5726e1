/-!
# URL hosts

Whether the host of a URL is valid, following the URL Standard's host parser, and why not.
Only validity is decided here; the host's serialization is not needed by this library.

* A host in brackets must be an IPv6 address: up to eight groups of one to four hexadecimal
  digits separated by colons, one `::` standing for a run of zero groups, and optionally a
  dotted IPv4 address in place of the last two groups.
* The host of a non-special URL (opaque host) must not contain a forbidden host code point.
* Otherwise the host is percent-decoded, must be valid UTF-8 and non-empty, and must not
  contain a forbidden domain code point. When its last label is a number, the whole host must
  be an IPv4 address: at most four decimal, octal (leading `0`) or hexadecimal (`0x`) numbers,
  each but the last below 256 and the last below `256 ^ (5 - parts)`.
-/

namespace MemoryDashboard

namespace Url

/-- Code points that may not appear in any host. -/
def isForbiddenHostChar (c : Char) : Bool :=
  c.toNat = 0 || c = '\t' || c = '\n' || c = '\r' || c = ' ' || c = '#' || c = '/' || c = ':' ||
    c = '<' || c = '>' || c = '?' || c = '@' || c = '[' || c = '\\' || c = ']' || c = '^' ||
    c = '|'

/-- Code points that may not appear in a domain: the forbidden host code points, the C0
controls, `%` and DEL. -/
def isForbiddenDomainChar (c : Char) : Bool :=
  isForbiddenHostChar c || c.toNat ≤ 0x1F || c = '%' || c.toNat = 0x7F

/-- The value of an ASCII hexadecimal digit. -/
def hexValue? (c : Char) : Option Nat :=
  if '0' ≤ c && c ≤ '9' then some (c.toNat - '0'.toNat)
  else if 'a' ≤ c && c ≤ 'f' then some (c.toNat - 'a'.toNat + 10)
  else if 'A' ≤ c && c ≤ 'F' then some (c.toNat - 'A'.toNat + 10)
  else none

/-- The bytes of a text with `%XX` sequences decoded; a `%` without two hexadecimal digits
stays as it is. -/
def percentDecode : List Char → List UInt8
  | '%' :: a :: b :: rest =>
    match hexValue? a, hexValue? b with
    | some x, some y => (x * 16 + y).toUInt8 :: percentDecode rest
    | _, _ => '%'.toNat.toUInt8 :: percentDecode (a :: b :: rest)
  | c :: rest => (String.singleton c).toUTF8.toList ++ percentDecode rest
  | [] => []

/-- The value of digits in a radix, when every character is a digit of it. -/
def digitsIn (radix : Nat) (cs : List Char) : Option Nat :=
  cs.foldlM (fun acc c => (hexValue? c).bind fun d => if d < radix then some (acc * radix + d) else none) 0

/-- The value of one part of an IPv4 address: hexadecimal after `0x`, octal after a leading
`0`, decimal otherwise; an empty part is not a number. -/
def ipv4Number? (part : List Char) : Option Nat :=
  match part with
  | [] => none
  | '0' :: x :: rest =>
    if x = 'x' || x = 'X' then (if rest.isEmpty then some 0 else digitsIn 16 rest)
    else digitsIn 8 (x :: rest)
  | _ => digitsIn 10 part

/-- The parts of a host between its points, a final empty part dropped when there are
others. -/
def ipv4Parts (host : List Char) : List (List Char) :=
  let parts := host.splitOn '.'
  match parts.getLast? with
  | some [] => if parts.length > 1 then parts.dropLast else parts
  | _ => parts

/-- Whether the last label of a domain is a number, which makes the domain an IPv4 address. -/
def endsInNumber (host : List Char) : Bool :=
  match (ipv4Parts host).getLast? with
  | some last => (!last.isEmpty && last.all Char.isDigit) || (ipv4Number? last).isSome
  | none => false

/-- Whether a domain is a valid IPv4 address. -/
def isIpv4 (host : List Char) : Bool :=
  let parts := ipv4Parts host
  if parts.length > 4 then false
  else
    match parts.mapM ipv4Number? with
    | none => false
    | some numbers =>
      match numbers.reverse with
      | [] => false
      | last :: others => others.all (· < 256) && last < Nat.pow 256 (5 - numbers.length)

/-- One to four hexadecimal digits at the start, with their count. -/
def hexGroup (cs : List Char) : Nat × List Char :=
  let ds := (cs.takeWhile fun c => (hexValue? c).isSome).take 4
  (ds.length, cs.drop ds.length)

/-- A dotted IPv4 address ending an IPv6 address: exactly four decimal numbers below 256
without leading zeros. -/
def isEmbeddedIpv4 (cs : List Char) : Bool :=
  let parts := cs.splitOn '.'
  parts.length = 4 && parts.all fun p =>
    !p.isEmpty && p.all Char.isDigit && (p.length = 1 || p.head? != some '0') &&
      (digitsIn 10 p).any (· < 256)

/-- Reads the groups of an IPv6 address after the first: `pieces` groups are filled and
`compressed` tells whether `::` was seen. `fuel` bounds the steps. -/
def ipv6Rest (fuel : Nat) (pieces : Nat) (compressed : Bool) (cs : List Char) : Bool :=
  match fuel with
  | 0 => false
  | fuel + 1 =>
    match cs with
    | [] => compressed || pieces = 8
    | ':' :: rest =>
      if pieces = 8 || compressed then false else ipv6Rest fuel (pieces + 1) true rest
    | _ =>
      if pieces = 8 then false
      else
        let (count, rest) := hexGroup cs
        match rest with
        | '.' :: _ =>
          count > 0 && pieces ≤ 6 && isEmbeddedIpv4 cs &&
            (compressed || pieces + 2 = 8)
        | ':' :: [] => false
        | ':' :: more => count > 0 && ipv6Rest fuel (pieces + 1) compressed more
        | [] => count > 0 && (compressed || pieces + 1 = 8)
        | _ => false

/-- Whether the text between brackets is an IPv6 address. -/
def isIpv6 (cs : List Char) : Bool :=
  match cs with
  | ':' :: ':' :: rest => ipv6Rest (rest.length + 2) 1 true rest
  | ':' :: _ => false
  | _ => ipv6Rest (cs.length + 2) 0 false cs

/-- Why a host is not valid. -/
inductive HostError where
  /-- A domain that does not decode, is empty or holds a forbidden code point. -/
  | invalidDomain
  /-- An opaque host with a forbidden code point. -/
  | invalidDomainCharacter
  | invalidIpv4Address
  | invalidIpv6Address
  deriving DecidableEq, Inhabited, Repr

/-- Why a host of a URL is not valid, if it is not; `special` tells whether the URL's scheme is
special. -/
def hostError? (special : Bool) (host : List Char) : Option HostError :=
  match host with
  | '[' :: rest =>
    match rest.getLast? with
    | some ']' => if isIpv6 rest.dropLast then none else some .invalidIpv6Address
    | _ => some .invalidIpv6Address
  | _ =>
    if !special then
      if host.any isForbiddenHostChar then some .invalidDomainCharacter else none
    else
      match String.fromUTF8? (ByteArray.mk (percentDecode host).toArray) with
      | none => some .invalidDomain
      | some domain =>
        let ds := domain.toList
        if ds.isEmpty || ds.any isForbiddenDomainChar then some .invalidDomain
        else if endsInNumber ds && !isIpv4 ds then some .invalidIpv4Address
        else none

/-- Whether a host of a URL is valid; `special` tells whether the URL's scheme is special. -/
def isValidHost (special : Bool) (host : List Char) : Bool := (hostError? special host).isNone

end Url

end MemoryDashboard
