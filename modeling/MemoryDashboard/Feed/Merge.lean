import MemoryDashboard.Feed.Item
/-!
# Merging pages into the feed

The feed is one list, newest first by `created_at` (unreadable timestamps count as the epoch);
the order is stable, so items with equal times keep their relative order. Pages join it by key:

* appending a page adds its items, an item whose key is already present replacing the old one
  where it stands;
* refreshing with a fresh first page first drops the held items the page also holds, then
  adds the page the same way, so older pages already loaded survive.

Both end with the newest-first sort. The keys that a merge brings in are those of the merged
list not held before, in sorted order.
-/

namespace MemoryDashboard

namespace Feed

/-- Newest first by `created_at`, keeping the order of equal times. -/
def sortNewestFirst (items : List FeedItem) : List FeedItem :=
  items.mergeSort (fun a b => b.createdAtMillis ≤ a.createdAtMillis)

/-- Adds keyed items one by one: a key already present is replaced where it stands, a new key
is added at the end. -/
def unionKeyed (held : List (String × FeedItem)) : List (String × FeedItem) → List (String × FeedItem)
  | [] => held
  | (k, item) :: rest =>
    let placed :=
      if held.any (fun p => p.1 == k) then held.map (fun p => if p.1 == k then (k, item) else p)
      else held ++ [(k, item)]
    unionKeyed placed rest

/-- Items paired with their keys. -/
def keyed (items : List FeedItem) : List (String × FeedItem) := items.map fun i => (i.key, i)

/-- The union by key of the held items and a page, sorted newest first. -/
def unionByKey (held incoming : List FeedItem) : List FeedItem :=
  sortNewestFirst ((unionKeyed [] (keyed held ++ keyed incoming)).map Prod.snd)

/-- Merges a next page into the feed. -/
def appendMerge (held incoming : List FeedItem) : List FeedItem := unionByKey held incoming

/-- Merges a fresh first page into the feed: held items the page also holds give way to it. -/
def refreshMerge (held firstPage : List FeedItem) : List FeedItem :=
  let fresh := firstPage.map FeedItem.key
  unionByKey (held.filter fun i => !fresh.contains i.key) firstPage

/-- Inserts a text into a sorted list without duplicates. -/
def insertSorted (s : String) : List String → List String
  | [] => [s]
  | t :: rest => if s < t then s :: t :: rest else if s = t then t :: rest else t :: insertSorted s rest

/-- The keys of `merged` that `before` does not hold, sorted, each once. -/
def newKeys (before merged : List FeedItem) : List String :=
  let seen := before.map FeedItem.key
  (merged.map FeedItem.key).foldl (fun acc k => if seen.contains k then acc else insertSorted k acc) []

end Feed

end MemoryDashboard
