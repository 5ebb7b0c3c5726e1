import MemoryDashboard.Json.Decode
import MemoryDashboard.Json.Write
import MemoryDashboard.Text.Utf8
/-!
# Requests and responses

The dashboard's API answers HTTP requests: a method, a target (a path and an optional query
after `?`), an optional content type and a body. A response is a status and a body text.

A query is read as a form: pairs separated by `&` (empty pieces skipped), each split at its
first `=` (a piece without one has an empty value), with `+` for a space and `%` followed by two
hex digits for a byte; the bytes are then decoded as UTF-8 with replacement.

A body is taken as JSON only under a JSON content type: a well-formed media type of type
`application` whose subtype is `json` or carries the suffix `json` (`application/vnd.api+json`),
with optional parameters after `;`; type and subtype are compared without regard to case.
-/

namespace MemoryDashboard

namespace Api

/-- An HTTP request. -/
structure Request where
  method : String := "GET"
  /-- The path, with the query after `?` when there is one. -/
  target : String
  contentType : Option String := none
  body : String := ""
  deriving DecidableEq, Inhabited, Repr

/-- An HTTP response. -/
structure Response where
  status : Nat
  body : String
  deriving DecidableEq, Inhabited, Repr

namespace Response

/-- A successful JSON answer. -/
def json (j : Json) : Response := ⟨200, Json.compact j⟩

/-- A plain text answer with a status. -/
def text (status : Nat) (body : String) : Response := ⟨status, body⟩

/-- An answer with nothing in it. -/
def empty (status : Nat) : Response := ⟨status, ""⟩

end Response

/-- The path of a target: everything before `?`. -/
def Request.path (r : Request) : String := (r.target.splitOn "?").headD ""

/-- The query of a target, when it has one. -/
def Request.query? (r : Request) : Option String :=
  match r.target.splitOn "?" with
  | _ :: q :: more => some ("?".intercalate (q :: more))
  | _ => none

/-- The value of a hex digit. -/
def hexDigit? (b : UInt8) : Option Nat :=
  let n := b.toNat
  if 48 ≤ n && n ≤ 57 then some (n - 48)
  else if 65 ≤ n && n ≤ 70 then some (n - 55)
  else if 97 ≤ n && n ≤ 102 then some (n - 87)
  else none

/-- Decodes `%` escapes; a `%` not followed by two hex digits stays as it is. -/
def percentBytes : List UInt8 → List UInt8
  | b :: rest@(x :: y :: more) =>
    let decoded := if b = 37 then (hexDigit? x).bind fun h => (hexDigit? y).map fun l => h * 16 + l else none
    match decoded with
    | some byte => byte.toUInt8 :: percentBytes more
    | none => b :: percentBytes rest
  | bs => bs

/-- Decodes one name or value of a form. -/
def formText (s : String) : String :=
  let bytes := (Text.utf8Bytes s).map fun b => if b = 43 then 32 else b
  String.ofList (Text.decodeLossy (percentBytes bytes))

/-- The pairs of a form, in order. -/
def formPairs (query : String) : List (String × String) :=
  ((query.splitOn "&").filter (!·.isEmpty)).map fun piece =>
    match piece.splitOn "=" with
    | name :: rest => (formText name, formText ("=".intercalate rest))
    | [] => ("", "")

/-- Whether a character may stand in a media type's token. -/
def isTokenChar (c : Char) : Bool :=
  c.isAlphanum || "!#$%&*+-.^_|~".toList.contains c || c = Char.ofNat 39 || c = Char.ofNat 96

/-- Whether a character may stand inside a quoted parameter value: any visible character or
blank, the quote included. -/
def isQuotedChar (c : Char) : Bool := 31 < c.toNat && c.toNat != 127

/-- Lowers ASCII letters. -/
def asciiLower (s : String) : String := String.ofList (s.toList.map Char.toLower)

/-- Where the reading of a media type's parameters stands. -/
inductive ParamState where
  /-- Before a parameter's name, where blanks are skipped. -/
  | nameStart
  /-- Inside a parameter's name. -/
  | name
  /-- Right after a name's `=`. -/
  | valueStart
  /-- Inside an unquoted value. -/
  | bare
  /-- Inside a quoted value, and whether a character has been read in it. -/
  | quoted (begun : Bool)
  /-- After a quoted value, where blanks may follow. -/
  | afterQuote
  deriving DecidableEq, Inhabited, Repr

/-- Whether the parameters after a media type's first `;` are well formed. Each is a name, `=`
and a value; blanks may stand before a name and after a quoted value; an unquoted value is a
run of token characters ended by `;` (a `;` right after `=` is an error) or by the end, where it
may be empty; a quoted value runs to the next quote after at least one character. -/
def paramsWellFormed : ParamState → List Char → Bool
  | .nameStart, [] => true
  | .nameStart, c :: rest =>
    if c = ' ' then paramsWellFormed .nameStart rest
    else if isTokenChar c then paramsWellFormed .name rest
    else false
  | .name, [] => false
  | .name, c :: rest =>
    if isTokenChar c then paramsWellFormed .name rest
    else if c = '=' then paramsWellFormed .valueStart rest
    else false
  | .valueStart, [] => true
  | .valueStart, c :: rest =>
    if c = '"' then paramsWellFormed (.quoted false) rest
    else if isTokenChar c then paramsWellFormed .bare rest
    else false
  | .bare, [] => true
  | .bare, c :: rest =>
    if isTokenChar c then paramsWellFormed .bare rest
    else if c = ';' then paramsWellFormed .nameStart rest
    else false
  | .quoted _, [] => false
  | .quoted begun, c :: rest =>
    if c = '"' && begun then paramsWellFormed .afterQuote rest
    else if isQuotedChar c then paramsWellFormed (.quoted true) rest
    else false
  | .afterQuote, [] => true
  | .afterQuote, c :: rest =>
    if c = ';' then paramsWellFormed .nameStart rest
    else if c = ' ' then paramsWellFormed .afterQuote rest
    else false

/-- What decides a media type's kind: its type, its subtype and its suffix, lowered. -/
structure MediaType where
  kind : String
  subtype : String
  suffix : Option String
  deriving DecidableEq, Inhabited, Repr

/-- Splits a subtype's characters at its last `+` that is not its first character: the part
before it and the suffix after it. -/
def splitSuffix (sub : List Char) : List Char × Option (List Char) :=
  match sub with
  | [] => ([], none)
  | first :: rest =>
    match (rest.reverse.span (· != '+')) with
    | (_, []) => (sub, none)
    | (afterRev, _ :: beforeRev) => (first :: beforeRev.reverse, some afterRev.reverse)

/-- Reads a media type: `*/*`, or a non-empty token, `/`, a token and optional parameters after
`;` (the subtype must not be empty before a `;`). A `+` inside the subtype starts its suffix. -/
def MediaType.parse? (value : String) : Option MediaType :=
  if value = "*/*" then some { kind := "*", subtype := "*", suffix := none }
  else
    let cs := value.toList
    let kind := cs.takeWhile isTokenChar
    match cs.drop kind.length with
    | '/' :: rest =>
      let sub := rest.takeWhile isTokenChar
      let paramsOk :=
        match rest.drop sub.length with
        | [] => true
        | ';' :: more => !sub.isEmpty && paramsWellFormed .nameStart more
        | _ => false
      if kind.isEmpty || !paramsOk then none
      else
        let (subtype, suffix) := splitSuffix sub
        some { kind := asciiLower (String.ofList kind), subtype := asciiLower (String.ofList subtype),
               suffix := suffix.map fun s => asciiLower (String.ofList s) }
    | _ => none

/-- Whether a content type is JSON: a media type of type `application` whose subtype is `json`
or whose suffix is `json`. A value with a character outside visible ASCII and the tab is not
read at all. -/
def isJsonContentType (value : String) : Bool :=
  value.toList.all (fun c => c = '\t' || (32 ≤ c.toNat && c.toNat ≤ 126)) &&
    match MediaType.parse? value with
    | some t => t.kind == "application" && (t.subtype == "json" || t.suffix == some "json")
    | none => false

end Api

end MemoryDashboard
