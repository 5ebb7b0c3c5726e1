import MemoryDashboard.Feed.Item
/-!
# Pages and cursors

The service serves observations and summaries in pages: `{items, pagination}`, where the
pagination may say whether more pages follow and at which offset the next one starts. Summary
pages may omit each item's kind, which then defaults to `session_summary`.

A cursor per collection remembers where its next page starts and whether there is one. After a
page fetched at some offset, the cursor believes the page's `has_more` when given, else that a
full page means more; and it moves to the page's `next_offset` when that is given and not
negative, else past the items returned. Offsets are unsigned 64-bit counts: the offset past the
items returned is always worked out, and when it would pass the largest such count the advance
fails as an arithmetic overflow, even if the page names its next offset.
-/

namespace MemoryDashboard

namespace Feed

/-- Observations per page. -/
def observationPageSize : Nat := 20

/-- Summaries per page. -/
def summaryPageSize : Nat := 50

/-- What a page says about the pages after it. -/
structure Pagination where
  hasMore : Option Bool := none
  nextOffset : Option Int := none
  deriving Inhabited, DecidableEq, Repr

/-- A page of items. -/
structure Page where
  items : List FeedItem := []
  pagination : Option Pagination := none
  deriving Inhabited

open Json.Decode in
/-- Decodes a pagination record. -/
def Pagination.decoder : Json.Decoder Pagination := fun node => do
  let fs ← record "Pagination" [.of "has_more" (option bool), .of "next_offset" (option i64)] true node
  return { hasMore := ← fs.readOption "has_more" bool, nextOffset := ← fs.readOption "next_offset" i64 }

open Json.Decode in
/-- Decodes a page, giving kind-less items `defaultKind` when one is given. -/
def Page.decoder (defaultKind : Option String := none) : Json.Decoder Page := fun node => do
  let itemDecoder := FeedItem.decoder defaultKind
  let fs ← record "RawPage"
    [.of "items" (list itemDecoder), .of "pagination" (option Pagination.decoder)] true node
  return { items := ← fs.read "items" (list itemDecoder) [],
           pagination := ← fs.readOption "pagination" Pagination.decoder }

/-- The page a cursor without more pages stands for: no items, no more pages, and the
cursor's offset when it fits a signed 64-bit number. -/
def Page.exhausted (offset : Nat) : Page :=
  let nextOffset : Option Int := if offset < Nat.pow 2 63 then some offset else none
  { items := [], pagination := some { hasMore := some false, nextOffset } }

/-- The pagination as written: both fields, `null` when unknown. -/
def Pagination.toJson (p : Pagination) : Json :=
  Json.obj [("has_more", Json.opt Json.bool p.hasMore), ("next_offset", Json.opt Json.int p.nextOffset)]

/-- Where the next page of a collection starts and whether there is one. -/
structure Cursor where
  offset : Nat := 0
  hasMore : Bool := true
  deriving Inhabited, DecidableEq, Repr

/-- The cursor after a page fetched at `base` that returned `returned` items (before any
filtering), for pages of `pageSize`. -/
def Cursor.advance (pagination : Option Pagination) (base returned pageSize : Nat) : Cursor :=
  { hasMore := (pagination.bind Pagination.hasMore).getD (returned ≥ pageSize)
    offset :=
      match pagination.bind Pagination.nextOffset with
      | some n => if 0 ≤ n then n.toNat else base + returned
      | none => base + returned }

/-- The advance with offsets as unsigned 64-bit counts: `none` when the offset past the items
returned overflows, which is checked before the page's own next offset is looked at. -/
def Cursor.advance? (pagination : Option Pagination) (base returned pageSize : Nat) : Option Cursor :=
  if base + returned < Nat.pow 2 64 then some (Cursor.advance pagination base returned pageSize) else none

/-- How a failed advance is reported. -/
def Cursor.overflowMessage : String := "attempt to add with overflow"

/-- The cursor as written. -/
def Cursor.toJson (c : Cursor) : Json := Json.obj [("offset", .nat c.offset), ("has_more", .bool c.hasMore)]

end Feed

end MemoryDashboard
