import MemoryDashboard.Json.Read
import MemoryDashboard.Decimal.Layout
/-!
# Decoding JSON into typed records

A decoder reads a typed value out of a `Located` tree and, when the tree does not fit, says
why in the words the service's clients use: `invalid type: integer 5, expected a string`,
`missing field ...`, `duplicate field ...`, `invalid value: integer -1, expected u64`.

An error remembers the path of member keys and item indices that leads to the value at fault
and, for a tree read from text, a position: after the offending scalar, at the start of a
container of the wrong kind, and after the closing brace of a record that misses a field.

Records (`Decode.record`) read members in document order: a member whose name is not a field
is skipped, a field given twice is an error, and a field left out takes its default, stays
absent, or is an error, as its rule says. A record may also be given as an array of its fields
in declaration order.
-/

namespace MemoryDashboard

namespace Json

/-- What a decoder found where it expected something else. -/
inductive Unexpected where
  | null
  | bool (value : Bool)
  | unsigned (value : Nat)
  | signed (value : Int)
  | float (value : Float)
  | string (value : String)
  | sequence
  | map
  deriving Inhabited

/-- The escaped form of one character in a quoted message string: quotes, backslashes and
control characters are escaped, the latter as `\u{hex}`. -/
def debugEscape (c : Char) : String :=
  let hex (n : Nat) : String := String.ofList (Nat.toDigits 16 n)
  if c = '"' then "\\\""
  else if c = '\\' then "\\\\"
  else if c = '\n' then "\\n"
  else if c = '\r' then "\\r"
  else if c = '\t' then "\\t"
  else if c.toNat = 0 then "\\0"
  else if c.toNat < 0x20 || (0x7f ≤ c.toNat && c.toNat < 0xa0) || c.toNat = 0xad ||
      (0x200b ≤ c.toNat && c.toNat ≤ 0x200f) || c.toNat = 0x2028 || c.toNat = 0x2029 ||
      (0x2060 ≤ c.toNat && c.toNat ≤ 0x2064) || c.toNat = 0xfeff then
    "\\u" ++ "\x7b" ++ hex c.toNat ++ "\x7d"
  else String.singleton c

/-- A string in double quotes as messages show it. -/
def debugQuote (s : String) : String :=
  "\"" ++ String.join (s.toList.map debugEscape) ++ "\""

/-- How messages name an unexpected value: null as `null`, and a float as JSON text writes it
(`1e+20`, `1.5`). -/
def Unexpected.text : Unexpected → String
  | .null => "null"
  | .bool b => "boolean `" ++ (if b then "true" else "false") ++ "`"
  | .unsigned n => "integer `" ++ toString n ++ "`"
  | .signed n => "integer `" ++ toString n ++ "`"
  | .float x => "floating point `" ++ Decimal.floatText Decimal.Layout.json x ++ "`"
  | .string s => "string " ++ debugQuote s
  | .sequence => "sequence"
  | .map => "map"

/-- Why a value does not decode. -/
inductive DecodeError where
  | invalidType (found : Unexpected) (expected : String)
  | invalidValue (found : Unexpected) (expected : String)
  | invalidLength (length : Nat) (expected : String)
  | missingField (name : String)
  | duplicateField (name : String)
  | custom (message : String)
  /-- The text stopped being JSON before the value could be read. -/
  | malformed (error : SyntaxError)
  deriving Inhabited

/-- The wording of a decoding error. -/
def DecodeError.message : DecodeError → String
  | .invalidType found expected => "invalid type: " ++ found.text ++ ", expected " ++ expected
  | .invalidValue found expected => "invalid value: " ++ found.text ++ ", expected " ++ expected
  | .invalidLength n expected => "invalid length " ++ toString n ++ ", expected " ++ expected
  | .missingField name => "missing field `" ++ name ++ "`"
  | .duplicateField name => "duplicate field `" ++ name ++ "`"
  | .custom message => message
  | .malformed error => error.message

/-- One step of the path to a value: a member key or an item index. -/
inductive PathStep where
  | key (name : String)
  | index (position : Nat)
  deriving Inhabited

/-- A decoding error with where it happened. -/
structure DecodeFailure where
  error : DecodeError
  /-- The steps from the top of the document to the value at fault. -/
  path : List PathStep := []
  /-- Where in the text, for a tree read from text. -/
  position : Option TextPosition := none
  deriving Inhabited

/-- Whether the text stopped being JSON, rather than holding a value that does not fit. -/
def DecodeFailure.isMalformed (f : DecodeFailure) : Bool := f.error matches .malformed _

/-- The error alone. -/
def DecodeFailure.message (f : DecodeFailure) : String := f.error.message

/-- The error followed by its place in the text, when known. -/
def DecodeFailure.messageAt (f : DecodeFailure) : String :=
  match f.position with
  | some p => f.error.message ++ " at line " ++ toString p.line ++ " column " ++ toString p.column
  | none => f.error.message

/-- The path as `a.b[2].c`. -/
def pathText : List PathStep → String
  | [] => "."
  | first :: rest =>
    let stepText (s : PathStep) : String :=
      match s with
      | .key name => "." ++ name
      | .index i => "[" ++ toString i ++ "]"
    let head := match first with
      | .key name => name
      | .index i => "[" ++ toString i ++ "]"
    head ++ String.join (rest.map stepText)

/-- The path (when there is one), then the error and its place in the text. -/
def DecodeFailure.messageWithPath (f : DecodeFailure) : String :=
  match f.path with
  | [] => f.messageAt
  | path => pathText path ++ ": " ++ f.messageAt

/-- The result of decoding. -/
abbrev Decoded (α : Type) := Except DecodeFailure α

/-- A decoder of values of type `α`. -/
abbrev Decoder (α : Type) := Located → Decoded α

/-- How an unexpected node is named. -/
def Located.unexpected : Located → Unexpected
  | .scalar .null _ _ => .null
  | .scalar (.bool b) _ _ => .bool b
  | .scalar (.number (.natural n)) _ _ => .unsigned n
  | .scalar (.number (.negative n)) _ _ => .signed n
  | .scalar (.number (.float x)) _ _ => .float x
  | .scalar (.string s) _ _ => .string s
  | .scalar _ _ _ => .null
  | .array _ _ _ _ => .sequence
  | .object _ _ _ _ => .map
  | .broken _ _ _ => .null
  | .deep _ x => x.unexpected

/-- Where an error about a node is placed: after a scalar; at the start of a container of the
wrong kind; after any other container. -/
def Located.errorPosition (node : Located) (error : DecodeError) : Option TextPosition :=
  match node, error with
  | .scalar _ _ stop, _ => stop
  | _, .invalidType _ _ => node.start
  | _, _ => node.stop

namespace Decode

/-- Fails with an error about a node. -/
def failAt {α : Type} (node : Located) (error : DecodeError) : Decoded α :=
  .error { error, position := node.errorPosition error }

/-- Fails because the node is of the wrong kind. -/
def mismatch {α : Type} (expected : String) (node : Located) : Decoded α :=
  failAt node (.invalidType node.unexpected expected)

/-- Puts a step in front of the path of an error from below. -/
def within {α : Type} (step : PathStep) (r : Decoded α) : Decoded α :=
  match r with
  | .ok a => .ok a
  | .error f => .error { f with path := step :: f.path }

/-- Fails where reading stopped. -/
def stoppedAt {α : Type} (e : ReadError) : Decoded α :=
  .error { error := .malformed e.error, position := some e.position }

/-- A decoder that first fails on a value whose reading stopped. -/
def guarded {α : Type} (d : Decoder α) : Decoder α
  | .broken e _ _ => stoppedAt e
  | node => d node

/-- Decodes the value of member `key`; reading may have stopped within the value or before it
began, in which case the failure belongs to the object. -/
def memberValue {α : Type} (key : String) (d : Decoder α) : Located → Decoded α
  | .broken e _ false => stoppedAt e
  | x => within (.key key) (guarded d x)

/-- Fails when reading stopped between a container's values. -/
def tailOf : Option ReadError → Decoded Unit
  | some e => stoppedAt e
  | none => .ok ()

mutual

/-- Succeeds when reading did not stop within the node and no container in it is nested too
deep; otherwise fails at the first such place, with the path to it. -/
def complete : Located → Decoded Unit
  | .scalar _ _ _ => .ok ()
  | .broken e _ _ => stoppedAt e
  | .deep e _ => stoppedAt e
  | .array items _ _ tail => do
    completeItems 0 items
    tailOf tail
  | .object members _ _ tail => do
    completeMembers members
    tailOf tail

/-- Items read in full, from index `start`. -/
def completeItems (start : Nat) : List Located → Decoded Unit
  | [] => .ok ()
  | x :: rest => do
    within (.index start) (complete x)
    completeItems (start + 1) rest

/-- Member values read in full. -/
def completeMembers : LocatedMembers → Decoded Unit
  | [] => .ok ()
  | (k, _, x) :: rest => do
    match x with
    | .broken e _ false => stoppedAt e
    | x => within (.key k) (complete x)
    completeMembers rest

end

/-- Skips a value without looking into it, failing only where reading stopped within it; the
failure names no place inside the value. -/
def skipped : Decoder Unit := fun node =>
  match node.firstStop? with
  | some e => stoppedAt e
  | none => .ok ()

/-- A string. -/
def string : Decoder String
  | .scalar (.string s) _ _ => .ok s
  | node => mismatch "a string" node

/-- A boolean. -/
def bool : Decoder Bool
  | .scalar (.bool b) _ _ => .ok b
  | node => mismatch "a boolean" node

/-- A whole number in `0 .. bound - 1`, named `name` in messages. -/
def unsignedBelow (name : String) (bound : Nat) : Decoder Nat
  | node@(.scalar (.number (.natural n)) _ _) =>
    if n < bound then .ok n else failAt node (.invalidValue (.unsigned n) name)
  | node@(.scalar (.number (.negative n)) _ _) => failAt node (.invalidValue (.signed n) name)
  | node => mismatch name node

/-- An unsigned 64-bit whole number. -/
def u64 : Decoder Nat := unsignedBelow "u64" (Nat.pow 2 64)

/-- A machine-word count. -/
def usize : Decoder Nat := unsignedBelow "usize" (Nat.pow 2 64)

/-- An unsigned 32-bit whole number. -/
def u32 : Decoder Nat := unsignedBelow "u32" (Nat.pow 2 32)

/-- A signed 64-bit whole number. -/
def i64 : Decoder Int
  | node@(.scalar (.number (.natural n)) _ _) =>
    if n < Nat.pow 2 63 then .ok n else failAt node (.invalidValue (.unsigned n) "i64")
  | .scalar (.number (.negative n)) _ _ => .ok n
  | node => mismatch "i64" node

/-- A float; whole numbers are rounded to the nearest float. -/
def f64 : Decoder Float
  | .scalar (.number n) _ _ => .ok n.toFloat
  | node => mismatch "f64" node

/-- Any value, read in full. -/
def value : Decoder Json := fun node => do
  complete node
  .ok node.toJson

/-- An optional value: `null` is absent. -/
def option {α : Type} (d : Decoder α) : Decoder (Option α)
  | .scalar .null _ _ => .ok none
  | node => (d node).map some

/-- Decodes items in order, stopping at the first error. -/
def items {α : Type} (d : Decoder α) (start : Nat) : List Located → Decoded (List α)
  | [] => .ok []
  | x :: rest => do
    let a ← within (.index start) (guarded d x)
    let more ← items d (start + 1) rest
    .ok (a :: more)

/-- An array of values. -/
def list {α : Type} (d : Decoder α) : Decoder (List α)
  | .array xs _ _ tail => do
    let values ← items d 0 xs
    tailOf tail
    .ok values
  | .deep e _ => stoppedAt e
  | node => mismatch "a sequence" node

/-- Decodes member values in document order, stopping at the first error. -/
def memberValues {α : Type} (d : Decoder α) : LocatedMembers → Decoded (List (String × α))
  | [] => .ok []
  | (k, _, x) :: rest => do
    let a ← memberValue k d x
    let more ← memberValues d rest
    .ok ((k, a) :: more)

/-- Keeps the last value of each key, sorted by key. -/
def lastWins {α : Type} (pairs : List (String × α)) : List (String × α) :=
  let insert (acc : List (String × α)) (p : String × α) : List (String × α) :=
    let rec go : List (String × α) → List (String × α)
      | [] => [p]
      | (k, v) :: rest =>
        if p.1 < k then p :: (k, v) :: rest
        else if p.1 = k then p :: rest
        else (k, v) :: go rest
    go acc
  pairs.foldl insert []

/-- An object of values by key, sorted by key, a repeated key keeping its last value. -/
def stringMap {α : Type} (d : Decoder α) : Decoder (List (String × α))
  | .object ms _ _ tail => do
    let values ← memberValues d ms
    tailOf tail
    .ok (lastWins values)
  | .deep e _ => stoppedAt e
  | node => mismatch "a map" node

/-- What a record does with a field that is left out. -/
inductive Absent where
  /-- The field takes its default. -/
  | defaulted
  /-- The field is an optional value and stays absent; in array form it is required. -/
  | optional
  /-- Leaving the field out is an error. -/
  | required
  deriving DecidableEq, Inhabited

/-- How a record reads one field. -/
structure FieldRule where
  name : String
  aliases : List String := []
  check : Located → Decoded Unit
  absent : Absent := .defaulted

/-- A field rule from the field's decoder. -/
def FieldRule.of {α : Type} (name : String) (d : Decoder α) (absent : Absent := .defaulted) :
    FieldRule :=
  { name, check := fun node => (d node).map (fun _ => ()), absent }

/-- The fields given to a record: each field's name and its value. -/
abbrev Fields := List (String × Located)

/-- Reads a field with its decoder, or the fallback when it was left out. -/
def Fields.read {α : Type} (fs : Fields) (name : String) (d : Decoder α) (fallback : α) :
    Decoded α :=
  match fs.lookup name with
  | some node => within (.key name) (d node)
  | none => .ok fallback

/-- Reads an optional field: absent when left out. -/
def Fields.readOption {α : Type} (fs : Fields) (name : String) (d : Decoder α) :
    Decoded (Option α) :=
  fs.read name (option d) none

/-- The rule for a member name, by field name or alias. -/
def ruleFor? (rules : List FieldRule) (key : String) : Option FieldRule :=
  rules.find? (fun r => r.name == key || r.aliases.contains key)

/-- Reads members in document order against the rules. A member that is no field goes to
`other`, which skips it or keeps it; either way it must still be read. A field given again is
an error placed after its key. -/
def recordMembers (rules : List FieldRule) (other : Decoder Unit) (seen : Fields) :
    LocatedMembers → Decoded Fields
  | [] => .ok seen.reverse
  | (k, keyStop, x) :: rest =>
    match ruleFor? rules k with
    | none => do
      memberValue k other x
      recordMembers rules other seen rest
    | some rule =>
      if (seen.lookup rule.name).isSome then
        .error { error := .duplicateField rule.name, position := keyStop }
      else do
        memberValue k rule.check x
        recordMembers rules other ((rule.name, x) :: seen) rest

/-- What follows the items of a record given as an array, once every field is read, when
reading stopped there: a missing closing bracket or a trailing comma as such, anything else as
trailing characters. -/
def afterRecordItems {α : Type} (e : ReadError) : Decoded α :=
  if e.error = .eofWhileParsingList || e.error = .trailingComma then stoppedAt e
  else stoppedAt { e with error := .trailingCharacters }

/-- Reads the items of a record given as an array, field by field in declaration order;
`total` is the number of items given and `tail` where reading stopped after them. Items left
over are an error: in a text, trailing characters one byte into the first of them. -/
def recordItems (typeName : String) (count total : Nat) (node : Located) (tail : Option ReadError) :
    Nat → List FieldRule → List Located → Decoded Fields
  | _, [], [] =>
    match tail with
    | some e => afterRecordItems e
    | none => .ok []
  | _, [], x :: _ =>
    match x.start with
    | some p => .error { error := .malformed .trailingCharacters, position := some ⟨p.line, p.column + 1⟩ }
    | none => failAt node (.invalidLength total "fewer elements in array")
  | i, rule :: rules, [] => do
    tailOf tail
    if rule.absent = .defaulted then recordItems typeName count total node tail (i + 1) rules []
    else
      failAt node (.invalidLength i
        ("struct " ++ typeName ++ " with " ++ toString count ++
          (if count = 1 then " element" else " elements")))
  | i, rule :: rules, x :: xs => do
    within (.index i) (guarded rule.check x)
    let rest ← recordItems typeName count total node tail (i + 1) rules xs
    .ok ((rule.name, x) :: rest)

/-- Reads a record: an object of fields, or (when `arrayForm`) an array of them. The first
required field left out is an error. Members that are no field are skipped by `other`. -/
def recordWith (typeName : String) (rules : List FieldRule) (arrayForm : Bool)
    (other : Decoder Unit) : Decoder Fields
  | node@(.object members _ _ tail) => do
    let fields ← recordMembers rules other [] members
    tailOf tail
    match rules.find? (fun r => r.absent = .required && (fields.lookup r.name).isNone) with
    | some r => failAt node (.missingField r.name)
    | none => .ok fields
  | node@(.array xs _ _ tail) =>
    if arrayForm then recordItems typeName rules.length xs.length node tail 0 rules xs
    else mismatch ("struct " ++ typeName) node
  | .deep e _ => stoppedAt e
  | node => mismatch ("struct " ++ typeName) node

/-- Reads a record whose members that are no field are skipped without being entered. -/
def record (typeName : String) (rules : List FieldRule) (arrayForm : Bool := true) :
    Decoder Fields :=
  recordWith typeName rules arrayForm skipped

/-- Reads a record that keeps its members that are no field: each is read in full, entering
every container in it. -/
def keepingRecord (typeName : String) (rules : List FieldRule) (arrayForm : Bool := true) :
    Decoder Fields :=
  recordWith typeName rules arrayForm complete

end Decode

/-- Decodes a value in memory (errors carry no position). -/
def decodeValue {α : Type} (d : Decoder α) (j : Json) : Decoded α := d (Located.ofJson j)

/-- Reads a text and decodes its single value, the way a reader that decodes as it reads
does: whichever comes first in the text, a syntax error or a value that does not fit, is the
error. A syntax error inside a value carries the path to that value. After the value only
blanks may follow. -/
def decodeText {α : Type} (d : Decoder α) (text : String) : Except DecodeFailure α :=
  match readPrefix text with
  | .error (e, soFar) =>
    match Decode.guarded d soFar with
    | .error f => .error f
    | .ok _ => Decode.stoppedAt e
  | .ok (node, rest) =>
    match d node with
    | .error f => .error f
    | .ok a =>
      match rest.finish with
      | .error e => Decode.stoppedAt e
      | .ok () => .ok a

end Json

end MemoryDashboard
