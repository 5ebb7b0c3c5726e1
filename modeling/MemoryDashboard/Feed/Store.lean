import MemoryDashboard.Backend.Interface
import MemoryDashboard.Feed.Merge
import MemoryDashboard.Feed.Signal
import MemoryDashboard.Metrics.Registry
/-!
# The feed store

The feed store holds the feed of one project: a cursor for observations and one for summaries,
the merged items newest first, how many low-signal observations were left out, and the keys of
items that arrived since they were last acknowledged.

Every fetch is made under an epoch, the store's generation and project when the fetch began.
Switching to another project starts a new generation, so an answer that arrives for an older
epoch is dropped without touching the store. Only switching projects changes the project.

* Loading the first page switches to the project when needed, then refreshes the first page.
* Refreshing the first page of an epoch that is no longer current does nothing; otherwise it
  fetches the first page of both collections together, leaves out low-signal observations,
  moves both cursors, and merges the page in: the page's items replace the held items of the
  same key.
* Loading the next page does nothing while another load runs or when neither collection has
  more; otherwise it fetches the next page of each collection that has more, and merges it in.
  A failure is reported as such and leaves the store as it was.

A merge records the keys it introduced as new.

The store is shared by calls that wait on the backend, so an operation touches it only in
steps taken whole, with nothing else running meanwhile: switching projects, checking an epoch,
claiming the next-page load (`claimNext`), ending a load (`completeNext`, `completeFirst`),
giving up a load (`releaseLoad`), acknowledging and taking keys. Between these steps an
operation waits on the backend, and other operations may run.

The store records the feed's size whenever its items change, how many low-signal observations
it left out of a page (when there were any), and every next-page fetch that failed.
-/

namespace MemoryDashboard

namespace Feed

/-- The generation and project a fetch was made under. -/
structure Epoch where
  generation : Nat
  project : String
  deriving DecidableEq, Inhabited, Repr

/-- The state of the feed. -/
structure FeedStore where
  generation : Nat := 0
  project : String := ""
  observations : Cursor := {}
  summaries : Cursor := {}
  items : List FeedItem := []
  loadingMore : Bool := false
  filteredCount : Nat := 0
  /-- Keys introduced and not yet acknowledged, sorted, each once. -/
  newKeys : List String := []
  deriving Inhabited

/-- What a next-page load captures when it claims the load: the epoch and both cursors. -/
structure NextFetch where
  epoch : Epoch
  observations : Cursor
  summaries : Cursor
  deriving DecidableEq, Repr

/-- How loading a first page ended. -/
inductive FirstPageOutcome where
  | applied (newItems : Nat)
  | stale
  deriving DecidableEq, Inhabited, Repr

/-- How loading a next page ended. -/
inductive NextPageOutcome where
  /-- Another load was running, or no collection has more. -/
  | skipped
  | stale
  /-- The fetch failed; the store is unchanged and a later load may retry. -/
  | failed
  | applied (newItems : Nat)
  deriving DecidableEq, Inhabited, Repr

/-- The outcome's name, with the count of new items when applied. -/
def NextPageOutcome.text : NextPageOutcome → String
  | .skipped => "skipped"
  | .stale => "stale"
  | .failed => "failed"
  | .applied n => "applied:" ++ toString n

/-- Leaves out low-signal items, counting them. -/
def splitLowSignal (items : List FeedItem) : List FeedItem × Nat :=
  let kept := items.filter fun i => !i.isLowSignal
  (kept, items.length - kept.length)

/-- How many low-signal items a page holds. -/
def lowSignalCount (items : List FeedItem) : Nat := (splitLowSignal items).2

/-- The union of two sorted key lists. -/
def unionKeys (held added : List String) : List String :=
  added.foldl (fun acc k => insertSorted k acc) held

namespace FeedStore

/-- The store's current epoch. -/
def epoch (s : FeedStore) : Epoch := ⟨s.generation, s.project⟩

/-- Whether an epoch is the current one. -/
def isCurrent (s : FeedStore) (e : Epoch) : Bool := s.generation == e.generation && s.project == e.project

/-- Whether either collection has more pages. -/
def hasMore (s : FeedStore) : Bool := s.observations.hasMore || s.summaries.hasMore

/-- Switches to a project: a different one resets both cursors, empties the feed and starts a
new generation. Answers whether the project changed. -/
def withProject (s : FeedStore) (project : String) : Bool × FeedStore :=
  if s.project == project then (false, s)
  else
    (true, { s with project, generation := s.generation + 1, observations := {}, summaries := {},
                    items := [], filteredCount := 0, newKeys := [] })

/-- Takes a merged feed, recording the keys it introduced; answers how many. -/
def replaceItems (s : FeedStore) (merged : List FeedItem) : Nat × FeedStore :=
  let fresh := Feed.newKeys s.items merged
  (fresh.length, { s with items := merged, newKeys := unionKeys s.newKeys fresh })

/-- Takes the first pages of both collections. -/
def applyFirstPage (s : FeedStore) (observations summaries : Page) : Nat × FeedStore :=
  let (kept, dropped) := splitLowSignal observations.items
  let s := { s with
    filteredCount := dropped
    observations :=
      Cursor.advance observations.pagination 0 observations.items.length observationPageSize
    summaries := Cursor.advance summaries.pagination 0 summaries.items.length summaryPageSize }
  s.replaceItems (refreshMerge s.items (summaries.items ++ kept))

/-- Takes the next pages of both collections, fetched from the given cursors. -/
def applyNextPage (s : FeedStore) (observationsFrom summariesFrom : Cursor) (observations summaries : Page) :
    Nat × FeedStore :=
  let (kept, dropped) := splitLowSignal observations.items
  let s := { s with
    filteredCount := s.filteredCount + dropped
    observations :=
      Cursor.advance observations.pagination observationsFrom.offset observations.items.length observationPageSize
    summaries :=
      Cursor.advance summaries.pagination summariesFrom.offset summaries.items.length summaryPageSize }
  s.replaceItems (appendMerge s.items (summaries.items ++ kept))

/-- Claims the next-page load: nothing while another load runs or when neither collection has
more; otherwise marks the load running and captures the epoch and both cursors. -/
def claimNext (s : FeedStore) : Option NextFetch × FeedStore :=
  if s.loadingMore || !s.hasMore then (none, s)
  else (some ⟨s.epoch, s.observations, s.summaries⟩, { s with loadingMore := true })

/-- Marks the next-page load as no longer running. -/
def releaseLoad (s : FeedStore) : FeedStore := { s with loadingMore := false }

/-- Ends a claimed next-page load with what its fetch gave. The load is released; a failed
fetch changes nothing else, pages for an epoch that is no longer current are dropped, and
other pages are taken in. -/
def completeNext (s : FeedStore) (f : NextFetch) (fetched : Except String (Page × Page)) :
    NextPageOutcome × FeedStore :=
  let s := s.releaseLoad
  match fetched with
  | .error _ => (.failed, s)
  | .ok (observations, summaries) =>
    if s.isCurrent f.epoch then
      let (n, s) := s.applyNextPage f.observations f.summaries observations summaries
      (.applied n, s)
    else (.stale, s)

/-- Ends a first-page refresh with the fetched pages: dropped when the epoch is no longer
current, else taken in. -/
def completeFirst (s : FeedStore) (e : Epoch) (observations summaries : Page) :
    FirstPageOutcome × FeedStore :=
  if s.isCurrent e then
    let (n, s) := s.applyFirstPage observations summaries
    (.applied n, s)
  else (.stale, s)

/-- Clears the mark of some keys; answers how many were still marked. -/
def acknowledge (s : FeedStore) (keys : List String) : Nat × FeedStore :=
  keys.foldl
    (fun (n, s) k =>
      if s.newKeys.contains k then (n + 1, { s with newKeys := s.newKeys.erase k }) else (n, s))
    (0, s)

/-- Takes every new key at once. -/
def takeNewKeys (s : FeedStore) : List String × FeedStore := (s.newKeys, { s with newKeys := [] })

end FeedStore

section Operations

variable {m : Type → Type} [Monad m] [MonadStateOf FeedStore m] [MonadStateOf Metrics.Registry m]
  [MonadExceptOf Waiting m]

/-- Switches the feed to a project; answers whether it changed. -/
def setProject (project : String) : m Bool := do
  let changed ← modifyGetThe FeedStore (·.withProject project)
  if changed then Metrics.setValue .feedItems 0
  return changed

/-- Records a page taken in: the low-signal observations it left out and the feed's size. -/
def recordPage (observations : Page) (s : FeedStore) : m Unit := do
  let dropped := lowSignalCount observations.items
  if dropped > 0 then Metrics.increment .feedFilteredTotal dropped
  Metrics.setValue .feedItems s.items.length

/-- Refreshes the first page of an epoch. -/
def refreshFirstPage (api : Backend m) (e : Epoch) : m (Except String FirstPageOutcome) := do
  if !(← getThe FeedStore).isCurrent e then return .ok .stale
  let fetched ← Backend.join2 (api.memoriesPage e.project observationPageSize 0)
    (api.summariesPage e.project summaryPageSize 0)
  match fetched with
  | .error err =>
    return .error ("loading first feed page for project " ++ Json.debugQuote e.project ++ ": " ++ err)
  | .ok (observations, summaries) =>
    let outcome ← modifyGetThe FeedStore (·.completeFirst e observations summaries)
    if outcome matches .applied _ then recordPage observations (← getThe FeedStore)
    return .ok outcome

/-- Switches to a project when needed and loads its first page. -/
def loadFirstPage (api : Backend m) (project : String) : m (Except String FirstPageOutcome) := do
  let _ ← setProject project
  refreshFirstPage api (← getThe FeedStore).epoch

/-- The next page of a collection from its cursor, or the exhausted page without a fetch. -/
def nextPageOf (fetch : Nat → m (Except String Page)) (c : Cursor) : m (Except String Page) :=
  if c.hasMore then fetch c.offset else pure (.ok (Page.exhausted c.offset))

/-- Loads the next page of the feed. -/
def loadNextPage (api : Backend m) : m NextPageOutcome := do
  let some f ← modifyGetThe FeedStore FeedStore.claimNext | return .skipped
  let fetched ← Backend.join2
    (nextPageOf (api.memoriesPage f.epoch.project observationPageSize) f.observations)
    (nextPageOf (api.summariesPage f.epoch.project summaryPageSize) f.summaries)
  let outcome ← modifyGetThe FeedStore (·.completeNext f fetched)
  match fetched, outcome with
  | .error _, _ => Metrics.increment .loadMoreErrorsTotal 1
  | .ok (observations, _), .applied _ => recordPage observations (← getThe FeedStore)
  | .ok _, _ => pure ()
  return outcome

/-- Clears the mark of some keys; answers how many were still marked. -/
def acknowledgeKeys (keys : List String) : m Nat :=
  modifyGetThe FeedStore (·.acknowledge keys)

/-- Takes every new key at once. -/
def takeNewKeys : m (List String) :=
  modifyGetThe FeedStore FeedStore.takeNewKeys

end Operations

end Feed

end MemoryDashboard
