import MemoryDashboard.Backend.Scripted
/-!
# Driving the feed store

A run drives a feed store through steps against a scripted backend: switching projects, loading
first and next pages, refreshing the first page of the current epoch or of one captured
earlier, acknowledging new keys, and changing the script. Each step answers a value, the calls
it made, and the store's state after it.
-/

namespace MemoryDashboard

namespace Scripted

/-- A step of a feed run. -/
inductive FeedStep where
  | setProject (project : String)
  | loadFirstPage (project : String)
  | captureEpoch
  /-- Refreshes the first page of the captured epoch, or of the current one. -/
  | refreshFirstPage (captured : Bool)
  | loadNextPage
  | acknowledge (keys : List String)
  | takeNewKeys
  | items
  | update (changes : Json.Members)
  deriving Inhabited

/-- A feed run: the world and the epoch captured last. -/
structure FeedRun where
  world : World
  captured : Option Feed.Epoch := none
  deriving Inhabited

/-- What a step answers, with the calls it made and the store's state after it. -/
structure Entry where
  result : Json
  calls : List String
  state : Json
  deriving Inhabited

/-- The answer to a first-page load. -/
def firstPageJson : Except String Feed.FirstPageOutcome → Json
  | .ok (.applied n) => Json.obj [("applied", .nat n)]
  | .ok .stale => .str "stale"
  | .error e => Json.obj [("error", .str e)]

/-- The store's state as a run reports it. -/
def storeJson (s : Feed.FeedStore) : Json :=
  Json.obj
    [ ("project", .str s.project), ("generation", .nat s.generation),
      ("keys", .array (s.items.map fun i => .str i.key)),
      ("titles", .array (s.items.map fun i => .str i.core.title)),
      ("observations", s.observations.toJson), ("summaries", s.summaries.toJson),
      ("has_more", .bool s.hasMore), ("filtered_count", .nat s.filteredCount),
      ("new_keys", .array (s.newKeys.map Json.str)), ("loading_more", .bool s.loadingMore) ]

namespace FeedRun

/-- A run over a script, at a time. -/
def start (script : Script) (now : Time.Instant) : FeedRun :=
  { world := { dashboard := default, script, subject := .feed, now } }

/-- What a step does in the world. -/
def action (api : Backend Sim) (captured : Option Feed.Epoch) : FeedStep → Except String (Sim Json)
  | .setProject p => .ok do return .bool (← (Feed.setProject p : Sim Bool))
  | .loadFirstPage p => .ok do return firstPageJson (← Feed.loadFirstPage api p)
  | .captureEpoch => .ok do return .str (← getThe Feed.FeedStore).project
  | .refreshFirstPage true =>
    match captured with
    | some e => .ok do return firstPageJson (← Feed.refreshFirstPage api e)
    | none => .error "no captured epoch"
  | .refreshFirstPage false =>
    .ok do return firstPageJson (← Feed.refreshFirstPage api (← getThe Feed.FeedStore).epoch)
  | .loadNextPage => .ok do return .str (← Feed.loadNextPage api).text
  | .acknowledge keys => .ok do return .nat (← (Feed.acknowledgeKeys keys : Sim Nat))
  | .takeNewKeys => .ok do return .array ((← (Feed.takeNewKeys : Sim (List String))).map Json.str)
  | .items => .ok do return .array ((← getThe Feed.FeedStore).items.map Feed.FeedItem.toJson)
  | .update changes => .ok do
    modifyThe Script (·.update changes)
    return .str "updated"

/-- Takes one step. -/
def step (r : FeedRun) (s : FeedStep) : Except String (Entry × FeedRun) := do
  let x ← action (backend hookDepth) r.captured s
  let (result, calls, world) := Scripted.step x r.world
  let captured := match s with
    | .captureEpoch => some world.feed.epoch
    | _ => r.captured
  return ({ result := result.getD (.str "pending"), calls, state := storeJson world.feed },
    { world, captured })

/-- Takes steps in order. -/
def run (r : FeedRun) : List FeedStep → Except String (List Entry)
  | [] => .ok []
  | s :: rest => do
    let (e, r) ← r.step s
    return e :: (← r.run rest)

end FeedRun

/-- The entry as a run reports it. -/
def Entry.toJson (e : Entry) : Json :=
  Json.obj [("result", e.result), ("calls", .array (e.calls.map Json.str)), ("state", e.state)]

end Scripted

end MemoryDashboard
