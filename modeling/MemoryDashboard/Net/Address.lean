/-!
# Socket addresses

The dashboard listens on an address given as text. The text is a socket address when it is an
IPv4 address and a port (`127.0.0.1:8080`) or a bracketed IPv6 address, an optional `%` zone
and a port (`[::1]:8080`):

* an IPv4 address is four decimal numbers below 256 separated by points, each of at most three
  digits and without a leading zero;
* an IPv6 address is eight groups of at most four hex digits separated by colons, where one
  `::` may stand for one or more zero groups and the last two groups may be written as an IPv4
  address;
* a port is a decimal number below 65536, leading zeros allowed.

Any other text is split at its last colon into a host and a port (`localhost:8080`).
-/

namespace MemoryDashboard

namespace Net

/-- An IP address: four octets or eight groups. -/
inductive IpAddr where
  | v4 (octets : List Nat)
  | v6 (groups : List Nat)
  deriving DecidableEq, Inhabited, Repr

/-- An IP address and a port. -/
structure SocketAddr where
  ip : IpAddr
  port : Nat
  deriving DecidableEq, Inhabited, Repr

/-- The value of a digit in a radix. -/
def digitValue? (radix : Nat) (c : Char) : Option Nat :=
  let v :=
    if c.isDigit then some (c.toNat - '0'.toNat)
    else if 'a' ≤ c && c ≤ 'z' then some (c.toNat - 'a'.toNat + 10)
    else if 'A' ≤ c && c ≤ 'Z' then some (c.toNat - 'A'.toNat + 10)
    else none
  v.filter (· < radix)

/-- A number at the start of some characters: its digits in a radix, at most `maxDigits` of
them when given, a value below `bound`, and a leading zero only in `0` itself unless
`zeroPrefix` allows it. -/
def number? (radix : Nat) (maxDigits : Option Nat) (zeroPrefix : Bool) (bound : Nat)
    (cs : List Char) : Option (Nat × List Char) :=
  let digits := cs.takeWhile fun c => (digitValue? radix c).isSome
  let value := digits.foldl (fun acc c => acc * radix + (digitValue? radix c).getD 0) 0
  if digits.isEmpty then none
  else if maxDigits.any (· < digits.length) then none
  else if bound ≤ value then none
  else if !zeroPrefix && digits.head? = some '0' && 1 < digits.length then none
  else some (value, cs.drop digits.length)

/-- The four octets of an IPv4 address at the start of some characters. -/
def ipv4? (cs : List Char) : Option (List Nat × List Char) := do
  let (a, cs) ← number? 10 (some 3) false 256 cs
  let cs ← match cs with | '.' :: rest => some rest | _ => none
  let (b, cs) ← number? 10 (some 3) false 256 cs
  let cs ← match cs with | '.' :: rest => some rest | _ => none
  let (c, cs) ← number? 10 (some 3) false 256 cs
  let cs ← match cs with | '.' :: rest => some rest | _ => none
  let (d, cs) ← number? 10 (some 3) false 256 cs
  some ([a, b, c, d], cs)

/-- Reads at most `n` groups of an IPv6 address, the first at index `i` of a part of `limit`
groups; a group after the first follows a colon. The last two groups may be an IPv4 address,
which ends the part. Gives the groups, whether an IPv4 address ended them, and the rest. -/
def groups (limit : Nat) : (n : Nat) → (i : Nat) → List Char → List Nat × Bool × List Char
  | 0, _, cs => ([], false, cs)
  | n + 1, i, cs =>
    let afterColon := if i = 0 then some cs else match cs with | ':' :: rest => some rest | _ => none
    let v4 := if i + 1 < limit then afterColon.bind ipv4? else none
    match v4 with
    | some ([a, b, c, d], rest) => ([a * 256 + b, c * 256 + d], true, rest)
    | _ =>
      match afterColon.bind (number? 16 (some 4) true 65536) with
      | some (g, rest) =>
        let (gs, ended, rest) := groups limit n (i + 1) rest
        (g :: gs, ended, rest)
      | none => ([], false, cs)

/-- The eight groups of an IPv6 address at the start of some characters. -/
def ipv6? (cs : List Char) : Option (List Nat × List Char) :=
  let (head, headV4, rest) := groups 8 8 0 cs
  if head.length = 8 then some (head, rest)
  else if headV4 then none
  else
    match rest with
    | ':' :: ':' :: rest =>
      let limit := 7 - head.length
      let (tail, _, rest) := groups limit limit 0 rest
      some (head ++ List.replicate (8 - head.length - tail.length) 0 ++ tail, rest)
    | _ => none

/-- A port after its colon. -/
def port? (cs : List Char) : Option (Nat × List Char) :=
  match cs with
  | ':' :: rest => number? 10 none true 65536 rest
  | _ => none

/-- An IPv4 socket address. -/
def socketV4? (cs : List Char) : Option SocketAddr := do
  let (octets, rest) ← ipv4? cs
  let (port, rest) ← port? rest
  if rest.isEmpty then some ⟨.v4 octets, port⟩ else none

/-- A bracketed IPv6 socket address with an optional zone. -/
def socketV6? (cs : List Char) : Option SocketAddr := do
  let cs ← match cs with | '[' :: rest => some rest | _ => none
  let (groups, rest) ← ipv6? cs
  let rest := match rest with
    | '%' :: more => ((number? 10 none true (Nat.pow 2 32) more).map Prod.snd).getD rest
    | _ => rest
  let rest ← match rest with | ']' :: more => some more | _ => none
  let (port, rest) ← port? rest
  if rest.isEmpty then some ⟨.v6 groups, port⟩ else none

/-- A socket address written as one. -/
def SocketAddr.parse? (s : String) : Option SocketAddr :=
  (socketV4? s.toList).orElse fun _ => socketV6? s.toList

/-- An IP address written as one, with nothing after it. -/
def IpAddr.parse? (s : String) : Option IpAddr :=
  match ipv4? s.toList with
  | some (octets, []) => some (.v4 octets)
  | _ =>
    match ipv6? s.toList with
    | some (groups, []) => some (.v6 groups)
    | _ => none

/-- Splits a host and port at the last colon. -/
def splitHostPort? (s : String) : Option (String × String) :=
  let parts := s.splitOn ":"
  if parts.length < 2 then none
  else some (":".intercalate parts.dropLast, parts.getLast?.getD "")

/-- Reads a port number: an optional plus sign, then decimal digits, below 65536. -/
def portNumber? (s : String) : Option Nat :=
  let digits := match s.toList with
    | '+' :: rest => rest
    | cs => cs
  if digits.isEmpty || !digits.all Char.isDigit then none
  else
    let n := digits.foldl (fun acc c => acc * 10 + (c.toNat - '0'.toNat)) 0
    if n < 65536 then some n else none

end Net

end MemoryDashboard
