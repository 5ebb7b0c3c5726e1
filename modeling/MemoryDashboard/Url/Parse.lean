import MemoryDashboard.Url.Host
/-!
# URLs

Reads an absolute URL the way the URL Standard's basic parser does, far enough to decide
whether it parses (and why not) and to give its parts as they are written back: the authority
as written, the path, the query and the fragment.

* Leading and trailing C0 controls and spaces are stripped and tabs and newlines removed.
* The scheme is an ASCII letter followed by letters, digits, `+`, `-` and `.`, then `:`;
  without one there is no URL.
* Special schemes (`ftp`, `file`, `http`, `https`, `ws`, `wss`) always have a host, skip any
  slashes before it, and treat `\` like `/`. Other schemes have a host only after `//`, and
  a text not starting with `/` after the scheme is an opaque path.
* The authority's user information ends at its last `@`; a port must be decimal and at most
  65535.
* Path segments `.` and `..` (also spelt with `%2e`) are resolved; characters outside the
  path's safe set are percent-encoded.
* The first `?` after the scheme starts the query and the first `#` the fragment; both are
  percent-encoded with their own sets. The authority and the path end where they start.
* A URL that does not parse says why, in the words of the URL library the client uses: the host
  is checked before the port.
-/

namespace MemoryDashboard

namespace Url

/-- A parsed URL: its lowered scheme, its authority as written (user information, host and
port) when it has one, and its serialized path, query and fragment. -/
structure ParsedUrl where
  scheme : String
  authority : Option String := none
  path : String
  query : Option String := none
  fragment : Option String := none
  deriving DecidableEq, Inhabited, Repr

/-- Why a text is not a URL. -/
inductive ParseError where
  | relativeWithoutBase
  | emptyHost
  | invalidPort
  | host (error : HostError)
  deriving DecidableEq, Inhabited, Repr

/-- The URL library's text of a parse error. -/
def ParseError.message : ParseError → String
  | .relativeWithoutBase => "relative URL without a base"
  | .emptyHost => "empty host"
  | .invalidPort => "invalid port number"
  | .host .invalidDomain => "invalid international domain name"
  | .host .invalidDomainCharacter => "invalid domain character"
  | .host .invalidIpv4Address => "invalid IPv4 address"
  | .host .invalidIpv6Address => "invalid IPv6 address"

/-- The URL written back: scheme, authority after `//`, path, query after `?` and fragment
after `#`. -/
def ParsedUrl.text (u : ParsedUrl) : String :=
  u.scheme ++ ":" ++ (u.authority.map ("//" ++ ·)).getD "" ++ u.path ++
    (u.query.map ("?" ++ ·)).getD "" ++ (u.fragment.map ("#" ++ ·)).getD ""

/-- The schemes with special parsing rules. -/
def isSpecialScheme (scheme : String) : Bool :=
  ["ftp", "file", "http", "https", "ws", "wss"].contains scheme

/-- An uppercase hexadecimal digit. -/
def hexDigitUpper (n : Nat) : Char :=
  if n < 10 then Char.ofNat ('0'.toNat + n) else Char.ofNat ('A'.toNat + (n - 10))

/-- The `%XX` form of a character's UTF-8 bytes. -/
def percentEncoded (c : Char) : List Char :=
  (String.singleton c).toUTF8.toList.flatMap fun b =>
    ['%', hexDigitUpper (b.toNat / 16), hexDigitUpper (b.toNat % 16)]

/-- Characters a path percent-encodes: controls, space, `"`, `#`, `<`, `>`, `?`, the
backquote, `^`, `{`, `}` and everything beyond `~`. -/
def isPathEncoded (c : Char) : Bool :=
  c.toNat ≤ 0x20 || c = '"' || c = '#' || c = '<' || c = '>' || c = '?' || c.toNat = 0x60 ||
    c = '^' || c = '{' || c = '}' || c.toNat > 0x7E

/-- Characters a query encodes: controls, space, `"`, `#`, `<`, `>`, everything beyond `~`, and
in a special URL the apostrophe. -/
def isQueryEncoded (special : Bool) (c : Char) : Bool :=
  c.toNat ≤ 0x20 || c = '"' || c = '#' || c = '<' || c = '>' || c.toNat > 0x7E ||
    (special && c.toNat = 0x27)

/-- Characters a fragment encodes: controls, space, `"`, `<`, `>`, the backquote and everything
beyond `~`. -/
def isFragmentEncoded (c : Char) : Bool :=
  c.toNat ≤ 0x20 || c = '"' || c = '<' || c = '>' || c.toNat = 0x60 || c.toNat > 0x7E

/-- Characters an opaque path encodes: controls and everything beyond `~`. -/
def isControlEncoded (c : Char) : Bool := c.toNat < 0x20 || c.toNat > 0x7E

/-- Percent-encodes the characters of a set. -/
def encodeWith (encoded : Char → Bool) (cs : List Char) : List Char :=
  cs.flatMap fun c => if encoded c then percentEncoded c else [c]

/-- The lowered ASCII form of a segment, for comparing with dot spellings. -/
def asciiLowerList (cs : List Char) : List Char := cs.map Char.toLower

/-- A segment standing for the current directory: `.` or `%2e`. -/
def isSingleDot (segment : List Char) : Bool :=
  let s := asciiLowerList segment
  s = ['.'] || s = ['%', '2', 'e']

/-- A segment standing for the parent directory: `..` spelt with points or `%2e`. -/
def isDoubleDot (segment : List Char) : Bool :=
  let s := asciiLowerList segment
  s = ['.', '.'] || s = ['.', '%', '2', 'e'] || s = ['%', '2', 'e', '.'] ||
    s = ['%', '2', 'e', '%', '2', 'e']

/-- A drive letter such as `C:` or `C|`. -/
def isDriveLetter : List Char → Bool
  | [a, b] => a.isAlpha && (b = ':' || b = '|')
  | _ => false

/-- Splits a path into segments, each with whether a separator ended it. -/
def pathSegments (isSeparator : Char → Bool) : List Char → List (List Char × Bool)
  | [] => [([], false)]
  | c :: rest =>
    if isSeparator c then ([], true) :: pathSegments isSeparator rest
    else
      match pathSegments isSeparator rest with
      | (seg, ended) :: more => (c :: seg, ended) :: more
      | [] => [([c], false)]

/-- Adds one segment to a path, resolving dot segments. In a file URL a leading drive letter
is kept by `..` and its `|` becomes `:`. -/
def pushSegment (file : Bool) (path : List (List Char)) (segment : List Char × Bool) :
    List (List Char) :=
  let (seg, ended) := segment
  if isDoubleDot seg then
    let kept :=
      if file && path.length = 1 && (path.head?.any fun s => s.length = 2 && s.getLast? = some ':' &&
          (s.head?.any Char.isAlpha)) then path
      else path.dropLast
    if ended then kept else kept ++ [[]]
  else if isSingleDot seg then
    if ended then path else path ++ [[]]
  else if file && path.isEmpty && isDriveLetter seg then
    path ++ [seg.take 1 ++ [':']]
  else path ++ [seg]

/-- The serialized path of the text read in the path state. -/
def pathText (special file : Bool) (cs : List Char) : String :=
  let sep : Char → Bool := fun c => c = '/' || (special && c = '\\')
  let segments := (pathSegments sep cs).map fun (seg, ended) => (encodeWith isPathEncoded seg, ended)
  let path := segments.foldl (pushSegment file) []
  String.ofList (path.flatMap fun seg => '/' :: seg)

/-- The path after the host: a special URL always has one; another URL has none when
nothing follows. A first separator is skipped. -/
def pathAfterHost (special file : Bool) (cs : List Char) : String :=
  match cs with
  | [] => if special then "/" else ""
  | c :: rest =>
    if c = '/' || (special && c = '\\') then pathText special file rest
    else pathText special file cs

/-- Splits a host and port at the first colon outside brackets. -/
def splitPort (inside : Bool) : List Char → List Char × Option (List Char)
  | [] => ([], none)
  | c :: rest =>
    if c = ':' && !inside then ([], some rest)
    else
      let (host, port) := splitPort (if c = '[' then true else if c = ']' then false else inside) rest
      (c :: host, port)

/-- Reads an authority and the path after it: the authority as written and the path. The host
is checked first, then the port, which must be decimal and at most 65535. -/
def afterAuthority (special : Bool) (cs : List Char) : Except ParseError (String × String) :=
  let ends : Char → Bool := fun c => c = '/' || (special && c = '\\')
  let authority := cs.takeWhile (fun c => !ends c)
  let rest := cs.drop authority.length
  let hasUser := authority.contains '@'
  let hostPort := (authority.reverse.takeWhile (· != '@')).reverse
  let (host, port) := splitPort false hostPort
  let hostCheck : Except ParseError Unit :=
    if host.isEmpty then
      if special || hasUser || port.isSome then .error .emptyHost else .ok ()
    else
      match hostError? special host with
      | some e => .error (.host e)
      | none => .ok ()
  let portCheck : Except ParseError Unit :=
    match port with
    | none => .ok ()
    | some p =>
      if p.all Char.isDigit && (p.isEmpty || (digitsIn 10 p).any (· ≤ 65535)) then .ok ()
      else .error .invalidPort
  do
    hostCheck
    portCheck
    .ok (String.ofList authority, pathAfterHost special false rest)

/-- Reads what follows `file:`: the authority, when there is one, and the path. -/
def fileRest (cs : List Char) : Except ParseError (Option String × String) :=
  let slash : Char → Bool := fun c => c = '/' || c = '\\'
  match cs with
  | c :: rest =>
    if slash c then
      match rest with
      | d :: more =>
        if slash d then
          let host := more.takeWhile (fun c => !slash c)
          let after := more.drop host.length
          if isDriveLetter host then .ok (some "", pathText true true (host ++ after))
          else if host.isEmpty then .ok (some "", pathAfterHost true true after)
          else
            match hostError? true host with
            | none => .ok (some (String.ofList host), pathAfterHost true true after)
            | some e => .error (.host e)
        else .ok (none, pathText true true rest)
      | [] => .ok (none, pathText true true rest)
    else .ok (none, pathText true true cs)
  | [] => .ok (none, pathText true true [])

/-- Splits what follows the scheme at the first `?` or `#`: the rest, the query and the
fragment, as written. -/
def splitQuery (cs : List Char) : List Char × Option (List Char) × Option (List Char) :=
  let main := cs.takeWhile fun c => c != '?' && c != '#'
  match cs.drop main.length with
  | '?' :: more =>
    let query := more.takeWhile (· != '#')
    match more.drop query.length with
    | '#' :: fragment => (main, some query, some fragment)
    | _ => (main, some query, none)
  | '#' :: fragment => (main, none, some fragment)
  | _ => (main, none, none)

/-- Parses an absolute URL, or says why it is not one. -/
def parse (input : String) : Except ParseError ParsedUrl :=
  let trimmed := ((input.toList.dropWhile (·.toNat ≤ 0x20)).reverse.dropWhile (·.toNat ≤ 0x20)).reverse
  let cs := trimmed.filter fun c => !(c = '\t' || c = '\n' || c = '\r')
  match cs with
  | first :: _ =>
    if !first.isAlpha then .error .relativeWithoutBase
    else
      let schemeChars := cs.takeWhile fun c => c.isAlphanum || c = '+' || c = '-' || c = '.'
      match cs.drop schemeChars.length with
      | ':' :: rest =>
        let scheme := String.ofList (asciiLowerList schemeChars)
        let special := isSpecialScheme scheme
        let (main, query, fragment) := splitQuery rest
        let parts : Except ParseError (Option String × String) :=
          if scheme = "file" then fileRest main
          else if special then
            (afterAuthority true (main.dropWhile fun c => c = '/' || c = '\\')).map
              fun (a, p) => (some a, p)
          else
            match main with
            | '/' :: '/' :: more => (afterAuthority false more).map fun (a, p) => (some a, p)
            | '/' :: more => .ok (none, pathText false false more)
            | _ => .ok (none, String.ofList (encodeWith isControlEncoded main))
        parts.map fun (authority, path) =>
          { scheme, authority, path
            query := query.map fun q => String.ofList (encodeWith (isQueryEncoded special) q)
            fragment := fragment.map fun f => String.ofList (encodeWith isFragmentEncoded f) }
      | _ => .error .relativeWithoutBase
  | [] => .error .relativeWithoutBase

/-- Parses an absolute URL; none when it is not one. -/
def parse? (input : String) : Option ParsedUrl := (parse input).toOption

end Url

end MemoryDashboard
