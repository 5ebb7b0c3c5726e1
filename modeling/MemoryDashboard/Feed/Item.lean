import MemoryDashboard.Json.Decode
import MemoryDashboard.Json.Lenient
import MemoryDashboard.Text.Case
import MemoryDashboard.Time.Instant
/-!
# Feed items

A feed row is either an observation (something learned or changed while working) or a session
summary. Both carry identifiers, a kind, a title, a body, a project, creation timestamps and
free-form metadata; an observation adds tags, files, a subtitle, a narrative and facts, and a
summary adds its structured summary.

The service decides nothing about the variant: an item is a summary exactly when its kind is
`session_summary` in any ASCII case. Tags and files may arrive as arrays or as the JSON text of
an array, and only their scalar items are kept, as text.

An item's identity is its key, `kind:signature`, with the kind lowered. The signature is the
text of the first identifier present among `id`, `memory_id`, `observation_id` and
`session_id` that has a scalar value, else `created_at_utc`, else `created_at`, else empty.
-/

namespace MemoryDashboard

namespace Feed

/-- The identifiers an item may carry, in the order they are tried. -/
structure ItemIds where
  id : Option Json := none
  memoryId : Option Json := none
  observationId : Option Json := none
  sessionId : Option Json := none
  deriving Inhabited

/-- What both kinds of item have. -/
structure ItemCore where
  ids : ItemIds := {}
  kind : String := ""
  title : String := ""
  bodyText : String := ""
  project : String := ""
  createdAt : Option String := none
  createdAtUtc : Option String := none
  /-- Free-form metadata; `null` when absent. -/
  metadata : Json := .null
  deriving Inhabited

/-- An observation. -/
structure Observation where
  core : ItemCore
  tags : List String := []
  files : List String := []
  subtitle : Option String := none
  narrative : Option String := none
  /-- Facts as the service sent them; `null` when absent. -/
  facts : Json := .null
  deriving Inhabited

/-- A session summary. -/
structure SessionSummary where
  core : ItemCore
  /-- The structured summary; `null` when absent. -/
  summary : Json := .null
  deriving Inhabited

/-- A feed row. -/
inductive FeedItem where
  | observation (o : Observation)
  | summary (s : SessionSummary)
  deriving Inhabited

/-- The kind of the summaries. -/
def summaryKind : String := "session_summary"

namespace FeedItem

/-- The shared fields. -/
def core : FeedItem → ItemCore
  | .observation o => o.core
  | .summary s => s.core

/-- Whether the item is a session summary. -/
def isSummary : FeedItem → Bool
  | .observation _ => false
  | .summary _ => true

/-- The kind as sent. -/
def kind (item : FeedItem) : String := item.core.kind

/-- The tags of an observation; a summary has none. -/
def tags : FeedItem → List String
  | .observation o => o.tags
  | .summary _ => []

/-- The files of an observation; a summary has none. -/
def files : FeedItem → List String
  | .observation o => o.files
  | .summary _ => []

/-- The text of the first identifier with a scalar value, else a creation timestamp. -/
def signature (item : FeedItem) : String :=
  let ids := item.core.ids
  let fromIds := [ids.id, ids.memoryId, ids.observationId, ids.sessionId].findSome?
    (fun v => v.bind Json.scalarText?)
  match fromIds with
  | some s => s
  | none => (item.core.createdAtUtc.orElse fun _ => item.core.createdAt).getD ""

/-- The identity of an item across pages and refreshes: lowered kind, colon, signature. -/
def key (item : FeedItem) : String := Text.lower item.kind ++ ":" ++ item.signature

/-- Milliseconds of `created_at` since the epoch; zero when absent or unreadable. -/
def createdAtMillis (item : FeedItem) : Int :=
  (item.core.createdAt.bind Time.Instant.parse?).elim 0 Time.Instant.millis

/-- The timestamp shown and compared: `created_at_utc`, else `created_at`, else empty. -/
def displayTimestamp (item : FeedItem) : String :=
  (item.core.createdAtUtc.orElse fun _ => item.core.createdAt).getD ""

/-- The members of the identifiers that are present. -/
def idMembers (ids : ItemIds) : List (String × Json) :=
  [("id", ids.id), ("memory_id", ids.memoryId), ("observation_id", ids.observationId),
    ("session_id", ids.sessionId)].filterMap fun (k, v) => v.map (k, ·)

/-- The members of the shared fields, leaving out absent timestamps and null metadata. -/
def coreMembers (c : ItemCore) : List (String × Json) :=
  idMembers c.ids ++
    [("kind", .str c.kind), ("title", .str c.title), ("body_text", .str c.bodyText),
      ("project", .str c.project)] ++
    (c.createdAt.map (fun t => ("created_at", Json.str t))).toList ++
    (c.createdAtUtc.map (fun t => ("created_at_utc", Json.str t))).toList ++
    (if c.metadata.isNull then [] else [("metadata_json", c.metadata)])

/-- The item as the dashboard writes it: the shared fields and the variant's own, in one
object, leaving out what is absent or null. -/
def toJson : FeedItem → Json
  | .observation o =>
    Json.obj (coreMembers o.core ++
      [("tags", .array (o.tags.map Json.str)), ("files", .array (o.files.map Json.str))] ++
      (o.subtitle.map (fun t => ("subtitle", Json.str t))).toList ++
      (o.narrative.map (fun t => ("narrative", Json.str t))).toList ++
      (if o.facts.isNull then [] else [("facts", o.facts)]))
  | .summary s =>
    Json.obj (coreMembers s.core ++ (if s.summary.isNull then [] else [("summary", s.summary)]))

end FeedItem

/-- The scalar items of an array or of an array's JSON text, as text. -/
def textItems (j : Json) : List String := (Json.arrayItems j).filterMap Json.scalarText?

/-- An item as the service sends it, before its variant is decided. -/
structure ItemRecord where
  ids : ItemIds := {}
  kind : Option String := none
  title : Option String := none
  bodyText : Option String := none
  project : Option String := none
  createdAt : Option String := none
  createdAtUtc : Option String := none
  metadata : Json := .null
  tags : Json := .null
  files : Json := .null
  subtitle : Option String := none
  narrative : Option String := none
  facts : Json := .null
  summary : Json := .null
  deriving Inhabited

namespace ItemRecord

open Json.Decode in
/-- The fields of an item record. `metadata` is another name for `metadata_json`. -/
def rules : List FieldRule :=
  [ .of "kind" (option string), .of "title" (option string), .of "body_text" (option string),
    .of "project" (option string), .of "created_at" (option string),
    .of "created_at_utc" (option string),
    { FieldRule.of "metadata_json" value with aliases := ["metadata"] },
    .of "tags" value, .of "files" value, .of "subtitle" (option string),
    .of "narrative" (option string), .of "facts" value, .of "summary" value ]

/-- The first value of a member, `null` meaning absent. -/
def idValue (members : Json.LocatedMembers) (key : String) : Option Json :=
  match (members.map fun (k, _, x) => (k, x)).lookup key with
  | some node => match node.toJson with
    | .null => none
    | v => some v
  | none => none

open Json.Decode in
/-- Decodes an item record: an object whose identifiers may stand anywhere among its members.
Every member is kept until the identifiers are taken from them, so each is read in full. -/
def decoder : Json.Decoder ItemRecord := fun node => do
  let fs ← keepingRecord "RawFeedItem" rules false node
  let members := match node with
    | .object ms _ _ _ => ms
    | _ => []
  let ids : ItemIds :=
    { id := idValue members "id", memoryId := idValue members "memory_id",
      observationId := idValue members "observation_id", sessionId := idValue members "session_id" }
  return {
    ids
    kind := ← fs.readOption "kind" string
    title := ← fs.readOption "title" string
    bodyText := ← fs.readOption "body_text" string
    project := ← fs.readOption "project" string
    createdAt := ← fs.readOption "created_at" string
    createdAtUtc := ← fs.readOption "created_at_utc" string
    metadata := ← fs.read "metadata_json" value .null
    tags := ← fs.read "tags" value .null
    files := ← fs.read "files" value .null
    subtitle := ← fs.readOption "subtitle" string
    narrative := ← fs.readOption "narrative" string
    facts := ← fs.read "facts" value .null
    summary := ← fs.read "summary" value .null }

/-- Gives a record without a kind (or with an empty one) the default kind. -/
def withDefaultKind (r : ItemRecord) (kind : String) : ItemRecord :=
  if r.kind.all String.isEmpty then { r with kind := some kind } else r

/-- Whether two texts agree up to ASCII case. -/
def equalsIgnoringAsciiCase (a b : String) : Bool :=
  a.length == b.length && (a.toList.zip b.toList).all fun (x, y) => x.toLower == y.toLower

/-- The feed item of a record: a summary when the kind is `session_summary` in any ASCII
case, an observation otherwise. -/
def toItem (r : ItemRecord) : FeedItem :=
  let kind := r.kind.getD ""
  let core : ItemCore :=
    { ids := r.ids, kind, title := r.title.getD "", bodyText := r.bodyText.getD "",
      project := r.project.getD "", createdAt := r.createdAt, createdAtUtc := r.createdAtUtc,
      metadata := r.metadata }
  if equalsIgnoringAsciiCase kind summaryKind then
    .summary { core := core, summary := r.summary }
  else
    .observation
      { core := core, tags := textItems r.tags, files := textItems r.files
        subtitle := r.subtitle, narrative := r.narrative, facts := r.facts }

end ItemRecord

/-- Decodes a feed item, giving kind-less records `defaultKind` when one is given. -/
def FeedItem.decoder (defaultKind : Option String := none) : Json.Decoder FeedItem := fun node =>
  (ItemRecord.decoder node).map fun r =>
    match defaultKind with
    | some k => (r.withDefaultKind k).toItem
    | none => r.toItem

end Feed

end MemoryDashboard
