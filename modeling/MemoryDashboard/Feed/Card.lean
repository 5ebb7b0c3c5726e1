import MemoryDashboard.Feed.Summary
import MemoryDashboard.Feed.Filter
import MemoryDashboard.Time.Age
/-!
# Feed cards

Everything a client needs to draw one row: the key, a kind label (the lowered kind with
underscores as spaces; an item without kind is a session summary), the title, the age and
time of creation, a meta line (`Project: ...`, the tag labels, the first two files), the tag
labels and files, whether the item is new, and a body: sections and a fallback text for a
summary, the view, its modes, the default mode and whether it starts clamped for an
observation.
-/

namespace MemoryDashboard

namespace Feed

/-- The body of a card. -/
inductive CardBody where
  | summary (sections : List SummarySection) (fallback : String)
  | observation (view : ObservationView) (modes : List ViewMode) (defaultMode : ViewMode)
      (clampDefault : Bool)
  deriving Inhabited

/-- The body as written, tagged by `type`. -/
def CardBody.toJson : CardBody → Json
  | .summary sections fallback =>
    Json.obj [("type", .str "summary"), ("sections", .array (sections.map SummarySection.toJson)),
      ("fallback", .str fallback)]
  | .observation view modes defaultMode clampDefault =>
    Json.obj [("type", .str "observation"), ("view", view.toJson),
      ("modes", .array (modes.map fun m => .str m.name)), ("default_mode", .str defaultMode.name),
      ("clamp_default", .bool clampDefault)]

/-- One row of the feed as drawn. -/
structure FeedCard where
  key : String
  kindLabel : String
  title : String
  age : String
  timestamp : String
  metaText : String
  tags : List String
  files : List String
  isNew : Bool
  body : CardBody
  deriving Inhabited

namespace FeedCard

/-- The card of an item at `now`. -/
def build (item : FeedItem) (isNew : Bool) (now : Time.Instant) : FeedCard :=
  let c := item.core
  let kind := if c.kind.isEmpty then summaryKind else Text.lower c.kind
  let created := c.createdAt.orElse fun _ => c.createdAtUtc
  let tags := (item.tags.map Text.tagLabel).filter (!·.isEmpty)
  let files := item.files
  let projectPart := if c.project.isEmpty then "Project: n/a" else "Project: " ++ c.project
  let tagPart := if tags.isEmpty then "" else " · " ++ ", ".intercalate tags
  let filePart := if files.isEmpty then "" else " · " ++ Text.fileList files 2
  let body : CardBody :=
    match item with
    | .summary s =>
      .summary ((summaryObject s).elim [] summarySections) (Text.trim c.bodyText)
    | .observation o =>
      let view := ObservationView.ofObservation o
      .observation view view.modes view.defaultMode (view.shouldClamp view.defaultMode)
  { key := item.key
    kindLabel := String.ofList (kind.toList.map fun ch => if ch = '_' then ' ' else ch)
    title := displayTitle item
    age := Time.relativeText created now
    timestamp := Time.timestampText created
    metaText := projectPart ++ tagPart ++ filePart
    tags, files, isNew, body }

/-- The card as written. -/
def toJson (card : FeedCard) : Json :=
  Json.obj [("key", .str card.key), ("kind_label", .str card.kindLabel), ("title", .str card.title),
    ("age", .str card.age), ("timestamp", .str card.timestamp), ("meta", .str card.metaText),
    ("tags", .array (card.tags.map Json.str)), ("files", .array (card.files.map Json.str)),
    ("is_new", .bool card.isNew), ("body", card.body.toJson)]

end FeedCard

end Feed

end MemoryDashboard
