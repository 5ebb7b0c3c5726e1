import MemoryDashboard.Feed.Item
import MemoryDashboard.Text.Label
/-!
# Which items are visible

A filter keeps all items, only observations or only summaries; an unknown filter name keeps
all. A query keeps the items whose haystack contains it after both are normalized
(`Text.normalize`); the haystack is the item's title, body, kind, tags and project, each
normalized, joined by spaces. An empty query keeps everything.

The view's signature names the filter, the project and every visible item by key, kind and
display timestamp; the render cache reports a view as changed whenever its signature differs
from the one before. The meta line counts the visible items and says which filter and query
produced them, how many observations were filtered out (only without a query), and whether
more pages can be loaded.
-/

namespace MemoryDashboard

namespace Feed

/-- Which kinds of item the feed shows. -/
inductive FeedFilter where
  | all
  | observations
  | summaries
  deriving Inhabited, DecidableEq, Repr

namespace FeedFilter

/-- Reads a filter name after trimming blanks; anything unknown is `all`. -/
def parse (raw : String) : FeedFilter :=
  match Text.trim raw with
  | "observations" => .observations
  | "summaries" => .summaries
  | _ => .all

/-- The filter's name. -/
def name : FeedFilter → String
  | .all => "all"
  | .observations => "observations"
  | .summaries => "summaries"

/-- What the meta line adds for the filter. -/
def metaLabel : FeedFilter → String
  | .all => ""
  | .observations => " · observations"
  | .summaries => " · session summaries"

/-- Whether the filter keeps an item. -/
def keeps : FeedFilter → FeedItem → Bool
  | .all, _ => true
  | .observations, item => !item.isSummary
  | .summaries, item => item.isSummary

end FeedFilter

/-- The normalized text a query is looked for in. -/
def haystack (item : FeedItem) : String :=
  let c := item.core
  let tags := " ".intercalate (item.tags.map Text.normalize)
  Text.trim (" ".intercalate [Text.normalize c.title, Text.normalize c.bodyText,
    Text.normalize c.kind, tags, Text.normalize c.project])

/-- Whether `needle` occurs in `hay`. -/
def containsText (hay needle : String) : Bool := hay.contains needle

/-- The items a filter and a query keep, in feed order. -/
def visibleItems (items : List FeedItem) (filter : FeedFilter) (query : String) : List FeedItem :=
  let byType := items.filter filter.keeps
  let q := Text.normalize query
  if q.isEmpty then byType else byType.filter fun i => containsText (haystack i) q

/-- `filter|project|key:kind:timestamp|...` over the visible items. -/
def viewSignature (filter : FeedFilter) (project : String) (visible : List FeedItem) : String :=
  let parts := "|".intercalate (visible.map fun i => i.key ++ ":" ++ i.kind ++ ":" ++ i.displayTimestamp)
  filter.name ++ "|" ++ project ++ "|" ++ parts

/-- The last signature drawn. -/
structure RenderCache where
  last : Option String := none
  deriving Inhabited

/-- Whether a signature differs from the last one, and the cache remembering it. -/
def RenderCache.changed (cache : RenderCache) (signature : String) : Bool × RenderCache :=
  if cache.last == some signature then (false, cache) else (true, { last := some signature })

/-- The line above the feed. -/
def metaLine (visible : Nat) (filter : FeedFilter) (query : String) (filteredCount : Nat)
    (hasMore : Bool) : String :=
  let q := Text.trim query
  let queryLabel := if q.isEmpty then "" else " · matching \"" ++ q ++ "\""
  let filteredLabel :=
    if q.isEmpty && filteredCount > 0 then " · " ++ toString filteredCount ++ " observations filtered"
    else ""
  let moreLabel := if hasMore then " · scroll for more" else ""
  toString visible ++ " items" ++ filter.metaLabel ++ queryLabel ++ filteredLabel ++ moreLabel

end Feed

end MemoryDashboard
