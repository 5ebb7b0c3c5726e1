/-!
# JSON values

The memory service and the dashboard exchange JSON. A value keeps what a reader of the
service's replies tells apart: a whole number that fits an unsigned 64-bit word, a negative
whole number that fits a signed one, and every other number as a binary64 float.

Objects hold their members sorted by key, with no key twice. That is the order in which the
dashboard writes them, and reading an object with a repeated key keeps the last value
(`Json.Members.insert`).
-/

namespace MemoryDashboard

/-- A JSON number as read: unsigned 64-bit, negative signed 64-bit, or a float. -/
inductive Number where
  /-- A whole number in `0 .. 2^64 - 1`. -/
  | natural (value : Nat)
  /-- A negative whole number in `-2^63 .. -1`. -/
  | negative (value : Int)
  /-- Any other number, rounded to binary64. -/
  | float (value : Float)
  deriving Inhabited

/-- A JSON value. -/
inductive Json where
  | null
  | bool (value : Bool)
  | number (value : Number)
  | string (value : String)
  | array (items : List Json)
  | object (members : List (String × Json))
  deriving Inhabited

namespace Number

/-- The number as a binary64 float, rounding a whole number to the nearest float. -/
def toFloat : Number → Float
  | .natural n => n.toUInt64.toFloat
  | .negative n => -((-n).toNat.toUInt64.toFloat)
  | .float x => x

end Number

namespace Json

/-- Object members are kept sorted by key with no key twice. -/
abbrev Members := List (String × Json)

namespace Members

/-- Adds a member in key order; a member with the same key is replaced in place. -/
def insert (key : String) (value : Json) : Members → Members
  | [] => [(key, value)]
  | (k, v) :: rest =>
    if key < k then (key, value) :: (k, v) :: rest
    else if key = k then (key, value) :: rest
    else (k, v) :: insert key value rest

/-- The members of a list of pairs, later pairs replacing earlier ones with the same key. -/
def ofList (pairs : List (String × Json)) : Members :=
  pairs.foldl (fun acc (k, v) => insert k v acc) []

/-- Removes the member with the given key. -/
def erase (key : String) (members : Members) : Members :=
  members.filter (fun (k, _) => k != key)

end Members

/-- An object built from pairs in any order; a repeated key keeps its last value. -/
def obj (pairs : List (String × Json)) : Json :=
  .object (Members.ofList pairs)

/-- A string value. -/
def str (s : String) : Json := .string s

/-- A whole number value. -/
def nat (n : Nat) : Json := .number (.natural n)

/-- A signed whole number value. -/
def int (n : Int) : Json :=
  if 0 ≤ n then .number (.natural n.toNat) else .number (.negative n)

/-- A float value. -/
def float (x : Float) : Json := .number (.float x)

/-- An optional value, `null` when absent. -/
def opt {α : Type} (f : α → Json) : Option α → Json
  | some a => f a
  | none => .null

/-- The value of a member of an object; `none` for a missing key or a non-object. -/
def field? (j : Json) (key : String) : Option Json :=
  match j with
  | .object members => members.lookup key
  | _ => none

/-- The text of a string value. -/
def asString? : Json → Option String
  | .string s => some s
  | _ => none

/-- The truth value of a boolean. -/
def asBool? : Json → Option Bool
  | .bool b => some b
  | _ => none

/-- The items of an array. -/
def asArray? : Json → Option (List Json)
  | .array items => some items
  | _ => none

/-- The members of an object. -/
def asObject? : Json → Option Members
  | .object members => some members
  | _ => none

/-- The number of a number value. -/
def asNumber? : Json → Option Number
  | .number n => some n
  | _ => none

/-- Whether the value is `null`. -/
def isNull : Json → Bool
  | .null => true
  | _ => false

/-- Whether the value is an object. -/
def isObject : Json → Bool
  | .object _ => true
  | _ => false

/-- Follows a path of member keys. -/
def path? (j : Json) : List String → Option Json
  | [] => some j
  | k :: rest => (j.field? k).bind (fun v => v.path? rest)

end Json

end MemoryDashboard
