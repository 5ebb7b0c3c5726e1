import MemoryDashboard.Toml.Scalar
/-!
# TOML documents

Reads a TOML 1.1 document into a JSON object. Values become JSON values: strings, integers,
floats and booleans as themselves, arrays as arrays, inline tables as objects, and date-times
as an object holding the date-time's text under `datetime` (a date-time is no string).

A document is a sequence of lines, each blank, a comment, a key-value pair, a table header
`[key]` or an array-of-tables header `[[key]]`, with an optional comment after it. Each key is
defined once, and each table too:

* a header defines its table, and creates the tables above it that do not exist yet; a table
  only created that way may be defined by a header later;
* a dotted key defines the tables before its last part; such a table may be extended by more
  dotted keys but not by a header, and a header-defined table is not extended by dotted keys;
* an array-of-tables header adds a table to its array, and headers below it refer to the
  last one;
* a value, an inline table or a static array can never be extended.

Arrays and inline tables may spread over lines, with comments between their values and a comma
after the last one. They nest at most `nestingLimit` deep.

The document is kept as a list of entries by path while it is read, then turned into nested
objects.
-/

namespace MemoryDashboard

namespace Toml

/-- One step of a path into a document: a key, or the index in an array of tables. -/
inductive Step where
  | key (name : String)
  | index (position : Nat)
  deriving DecidableEq, Inhabited, Repr

/-- How a table came to exist. -/
inductive Origin where
  /-- Created as the parent of a header's table. -/
  | implicit
  /-- Defined by its own header. -/
  | header
  /-- Defined by a dotted key. -/
  | dotted
  deriving DecidableEq, Inhabited, Repr

/-- What stands at a path of a document. -/
inductive Entry where
  | value (v : Json)
  | table (origin : Origin)
  | tableArray (count : Nat)
  deriving Inhabited

/-- A document being read: its entries by path, and the table that key-value pairs go to. -/
structure Doc where
  entries : List (List Step × Entry) := []
  current : List Step := []
  deriving Inhabited

namespace Doc

/-- The entry at a path. -/
def entry? (d : Doc) (path : List Step) : Option Entry := d.entries.lookup path

/-- Adds or replaces the entry at a path. -/
def put (d : Doc) (path : List Step) (e : Entry) : Doc :=
  { d with entries := (d.entries.filter (·.1 != path)) ++ [(path, e)] }

/-- Follows the parts of a key from a table, creating the tables that do not exist yet; an
array of tables stands for its last table. -/
def descend (d : Doc) (path : List Step) : List String → Option (Doc × List Step)
  | [] => some (d, path)
  | k :: rest =>
    let p := path ++ [.key k]
    match d.entry? p with
    | none => descend (d.put p (.table .implicit)) p rest
    | some (.table _) => descend d p rest
    | some (.tableArray n) => descend d (p ++ [.index (n - 1)]) rest
    | some (.value _) => none

/-- A `[key]` header. -/
def header (d : Doc) (key : List String) : Option Doc := do
  let (d, parent) ← d.descend [] key.dropLast
  let last ← key.getLast?
  let p := parent ++ [.key last]
  match d.entry? p with
  | none => some { d.put p (.table .header) with current := p }
  | some (.table .implicit) => some { d.put p (.table .header) with current := p }
  | _ => none

/-- A `[[key]]` header. -/
def arrayHeader (d : Doc) (key : List String) : Option Doc := do
  let (d, parent) ← d.descend [] key.dropLast
  let last ← key.getLast?
  let p := parent ++ [.key last]
  match d.entry? p with
  | none =>
    let element := p ++ [.index 0]
    some { (d.put p (.tableArray 1)).put element (.table .header) with current := element }
  | some (.tableArray n) =>
    let element := p ++ [.index n]
    some { (d.put p (.tableArray (n + 1))).put element (.table .header) with current := element }
  | _ => none

/-- Defines a dotted key's value under a table. -/
def define (d : Doc) (table : List Step) : List String → Json → Option Doc
  | [], _ => none
  | [k], v =>
    let p := table ++ [.key k]
    match d.entry? p with
    | none => some (d.put p (.value v))
    | some _ => none
  | k :: rest, v =>
    let p := table ++ [.key k]
    match d.entry? p with
    | none => define (d.put p (.table .dotted)) p rest v
    | some (.table .dotted) => define d p rest v
    | some _ => none

/-- The nested objects below a path; `fuel` bounds the depth. -/
def build (d : Doc) (fuel : Nat) (path : List Step) : Json.Members :=
  match fuel with
  | 0 => []
  | fuel + 1 =>
    Json.Members.ofList <| d.entries.filterMap fun (p, e) =>
      match p.drop path.length, p.take path.length == path with
      | [.key k], true =>
        some (k, match e with
          | .value v => v
          | .table _ => .object (d.build fuel p)
          | .tableArray n => .array ((List.range n).map fun i => .object (d.build fuel (p ++ [.index i]))))
      | _, _ => none

end Doc

/-- The JSON form of a date-time. -/
def dateTimeJson (text : String) : Json := Json.obj [("datetime", .str text)]

/-- Blanks, comments and line breaks, as allowed inside arrays and inline tables. -/
def skipArrayGaps (fuel : Nat) (cs : Input) : Option Input :=
  match fuel with
  | 0 => none
  | fuel + 1 => do
    let cs ← skipBlanksAndComment cs
    match lineBreak? cs with
    | some rest => skipArrayGaps fuel rest
    | none => some cs

/-- A number or date-time token: the run of characters that may belong to one. -/
def numberToken (cs : Input) : List Char :=
  cs.takeWhile fun c => c.isAlphanum || c = '_' || c = '+' || c = '-' || c = '.' || c = ':'

mutual

/-- A value inside `depth` containers. -/
def value? (fuel depth : Nat) (cs : Input) : Option (Json × Input) :=
  match fuel with
  | 0 => none
  | fuel + 1 =>
    match cs with
    | '"' :: _ => (string? fuel cs).map fun (s, rest) => (.str s, rest)
    | '\'' :: _ => (string? fuel cs).map fun (s, rest) => (.str s, rest)
    | '[' :: rest =>
      if depth < nestingLimit then arrayItems fuel (depth + 1) [] rest else none
    | '{' :: rest => do
      if depth < nestingLimit then inlineTable fuel (depth + 1) {} (← skipArrayGaps fuel rest)
      else none
    | 't' :: 'r' :: 'u' :: 'e' :: rest => some (.bool true, rest)
    | 'f' :: 'a' :: 'l' :: 's' :: 'e' :: rest => some (.bool false, rest)
    | _ =>
      match dateTime? cs with
      | some (text, rest) => some (dateTimeJson text, rest)
      | none =>
        let tok := numberToken cs
        if tok.isEmpty then none
        else
          let rest := cs.drop tok.length
          match integer? tok with
          | some n => some (Json.int n, rest)
          | none => (float? tok).map fun x => (Json.float x, rest)

/-- The items of an array after its opening bracket; the array is the `depth`-th container. -/
def arrayItems (fuel depth : Nat) (acc : List Json) (cs : Input) : Option (Json × Input) :=
  match fuel with
  | 0 => none
  | fuel + 1 => do
    let cs ← skipArrayGaps fuel cs
    match cs with
    | ']' :: rest => some (.array acc.reverse, rest)
    | _ =>
      let (v, rest) ← value? fuel depth cs
      let rest ← skipArrayGaps fuel rest
      match rest with
      | ',' :: more => arrayItems fuel depth (v :: acc) more
      | ']' :: more => some (.array (v :: acc).reverse, more)
      | _ => none

/-- The pairs of an inline table after its opening brace or a comma, and the gaps after it;
the table is the `depth`-th container. -/
def inlineTable (fuel depth : Nat) (d : Doc) (cs : Input) : Option (Json × Input) :=
  match fuel with
  | 0 => none
  | fuel + 1 =>
    match cs with
    | '}' :: rest => some (.object (d.build (d.entries.length + 1) []), rest)
    | ',' :: _ => none
    | _ => do
      let (key, rest) ← key? fuel cs
      let rest ← match skipBlanks rest with
        | '=' :: more => some (skipBlanks more)
        | _ => none
      let (v, rest) ← value? fuel depth rest
      let d ← d.define [] key v
      match ← skipArrayGaps fuel rest with
      | ',' :: more => inlineTable fuel depth d (← skipArrayGaps fuel more)
      | '}' :: more => some (.object (d.build (d.entries.length + 1) []), more)
      | _ => none

end

/-- The end of a line: blanks, an optional comment, then a line break or the end. -/
def lineEnd? (cs : Input) : Option Input := do
  let cs ← skipBlanksAndComment cs
  match cs with
  | [] => some []
  | _ => lineBreak? cs

/-- Reads the lines of a document. -/
def lines (fuel : Nat) (d : Doc) (cs : Input) : Option Doc :=
  match fuel with
  | 0 => none
  | fuel + 1 =>
    match skipBlanks cs with
    | [] => some d
    | '[' :: '[' :: rest => do
      let (key, rest) ← key? fuel (skipBlanks rest)
      let rest ← match skipBlanks rest with
        | ']' :: ']' :: more => some more
        | _ => none
      let d ← d.arrayHeader key
      lines fuel d (← lineEnd? rest)
    | '[' :: rest => do
      let (key, rest) ← key? fuel (skipBlanks rest)
      let rest ← match skipBlanks rest with
        | ']' :: more => some more
        | _ => none
      let d ← d.header key
      lines fuel d (← lineEnd? rest)
    | line => do
      match lineEnd? line with
      | some rest => lines fuel d rest
      | none =>
        let (key, rest) ← key? fuel line
        let rest ← match skipBlanks rest with
          | '=' :: more => some (skipBlanks more)
          | _ => none
        let (v, rest) ← value? fuel 0 rest
        let d ← d.define d.current key v
        lines fuel d (← lineEnd? rest)

/-- Reads a TOML document as an object; none when the text is not valid TOML. A byte order
mark at the start is skipped. -/
def readDocument (text : String) : Option Json.Members :=
  let cs := match text.toList with
    | '\uFEFF' :: rest => rest
    | cs => cs
  let fuel := 4 * cs.length + 16
  (lines fuel {} cs).map fun d => d.build (d.entries.length + 1) []

end Toml

end MemoryDashboard
