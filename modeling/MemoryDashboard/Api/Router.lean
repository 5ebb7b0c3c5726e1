import MemoryDashboard.Api.Http
import MemoryDashboard.Dashboard.Cycle
import MemoryDashboard.Feed.Card
import MemoryDashboard.Feed.Filter
/-!
# The dashboard's API

The routes the dashboard serves:

| route | methods | answer |
|---|---|---|
| `/health` | GET | `ok` |
| `/api/dashboard` | GET | the snapshot |
| `/api/feed` | GET | the feed view, for the `type` filter and `q` query of the request |
| `/api/feed/more` | POST | loads the next page |
| `/api/feed/seen` | POST | acknowledges new keys, or all of them |
| `/api/health-report` | GET | the health overview, 503 before any refresh |
| `/api/refresh` | POST | refreshes, 502 on failure |
| `/api/project` | POST | selects a project and refreshes when it changed |
| `/api/polling` | POST | pauses or resumes polling |
| `/api/settings` | GET, POST | the settings panel, 503 before any configuration; saves a form |
| `/api/sync/run` | POST | asks for a sync pass, 502 on failure |
| `/api/prefs` | GET, POST | the preferences; sets some of them |
| `/metrics` | GET | the metrics exposition text, when the process records metrics |

A GET route also answers HEAD, without a body. A path with no route answers 404, a method the
route does not take 405, both empty.

A JSON body needs a JSON content type (415 otherwise). The body is decoded as it is read: a
body that stops being JSON answers 400 and one that does not fit answers 422, whichever comes
first in the text, each with the path to where it happened. The bodies of `feed/seen` and
`sync/run` may be empty and are read without regard to the content type; a body that does not
read answers 400 with the reader's message.
-/

namespace MemoryDashboard

namespace Api

/-- The router's own state: whether it serves metrics, and the feed view drawn last. -/
structure AppState where
  metrics : Bool := false
  render : Feed.RenderCache := {}
  deriving Inhabited

/-- The routes. -/
inductive Route where
  | health
  | dashboard
  | feed
  | feedMore
  | feedSeen
  | healthReport
  | refresh
  | project
  | polling
  | settings
  | syncRun
  | prefs
  | metrics
  deriving DecidableEq, Inhabited, Repr

/-- The route of a path, for a router that serves metrics or not. -/
def routeOf (metrics : Bool) : String → Option Route
  | "/health" => some .health
  | "/api/dashboard" => some .dashboard
  | "/api/feed" => some .feed
  | "/api/feed/more" => some .feedMore
  | "/api/feed/seen" => some .feedSeen
  | "/api/health-report" => some .healthReport
  | "/api/refresh" => some .refresh
  | "/api/project" => some .project
  | "/api/polling" => some .polling
  | "/api/settings" => some .settings
  | "/api/sync/run" => some .syncRun
  | "/api/prefs" => some .prefs
  | "/metrics" => if metrics then some .metrics else none
  | _ => none

/-- The methods a route takes. -/
def Route.methods : Route → List String
  | .health | .dashboard | .feed | .healthReport | .metrics => ["GET", "HEAD"]
  | .settings | .prefs => ["GET", "HEAD", "POST"]
  | _ => ["POST"]

/-- The answer to a JSON body of the wrong kind. -/
def unsupportedMediaType : Response :=
  .text 415 "Expected request with `Content-Type: application/json`"

/-- Reads a JSON body. -/
def jsonBody {α : Type} (d : Json.Decoder α) (req : Request) : Except Response α :=
  if !(req.contentType.any isJsonContentType) then .error unsupportedMediaType
  else
    match Json.decodeText d req.body with
    | .ok a => .ok a
    | .error f =>
      if f.isMalformed then .error (.text 400 ("Failed to parse the request body as JSON: " ++ f.messageWithPath))
      else .error (.text 422 ("Failed to deserialize the JSON body into the target type: " ++ f.messageWithPath))

/-- Reads a body that may be empty. -/
def plainBody {α : Type} (d : Json.Decoder α) (empty : α) (req : Request) : Except Response α :=
  if req.body.isEmpty then .ok empty
  else
    match Json.decodeText d req.body with
    | .ok a => .ok a
    | .error f => .error (.text 400 f.messageAt)

open Json.Decode in
/-- The keys to acknowledge; none for all of them. -/
def seenDecoder : Json.Decoder (Option (List String)) := fun node => do
  let fs ← record "SeenReq" [.of "keys" (option (list string))] true node
  fs.readOption "keys" (list string)

open Json.Decode in
/-- The peer address to sync with, if any. -/
def syncRunDecoder : Json.Decoder (Option String) := fun node => do
  let fs ← record "SyncRunReq" [.of "address" (option string)] true node
  fs.readOption "address" string

open Json.Decode in
/-- The project to select. -/
def projectDecoder : Json.Decoder String := fun node => do
  let fs ← record "ProjectReq" [.of "project" string] true node
  fs.read "project" string ""

open Json.Decode in
/-- Whether polling should pause. -/
def pollingDecoder : Json.Decoder Bool := fun node => do
  let fs ← record "PollingReq" [.of "paused" bool .required] true node
  fs.read "paused" bool false

/-- The feed query: the filter asked for and the query text; a repeated field is an error. -/
def feedQuery (pairs : List (String × String)) : Except String (Option String × String) :=
  let step (acc : Except String (Option String × Option String)) (pair : String × String) :=
    acc.bind fun (filter, q) =>
      match pair.1 with
      | "type" => if filter.isSome then .error "duplicate field `type`" else .ok (some pair.2, q)
      | "q" => if q.isSome then .error "duplicate field `q`" else .ok (filter, some pair.2)
      | _ => .ok (filter, q)
  (pairs.foldl step (.ok (none, none))).map fun (filter, q) => (filter, q.getD "")

/-- The preference keys a request may set. -/
def preferenceKeys : List String :=
  [Prefs.tabKey, Prefs.feedFilterKey, Prefs.themeKey, Prefs.syncDiagnosticsKey,
    Prefs.syncPairingKey, Prefs.syncRedactKey, Prefs.detailsOpenKey]

/-- Sets a preference; a theme is stored as the theme it resolves to. -/
def withPreference (d : Dashboard) (key value : String) : Dashboard :=
  let value := if key == Prefs.themeKey then (Prefs.resolveTheme value).id else value
  { d with prefs := d.prefs.setValue key value }

/-- The metrics page of a recorder. -/
def metricsPage (r : Metrics.Registry) : Response := .text 200 r.render

section Handlers

variable {m : Type → Type} [Monad m] [MonadStateOf Dashboard m] [MonadStateOf Feed.FeedStore m]
  [MonadStateOf Metrics.Registry m] [MonadExceptOf Waiting m]

/-- The snapshot as an answer. -/
def snapshotResponse : m Response := do
  return .json (← (Dashboard.currentSnapshot : m Snapshot)).toJson

/-- The feed view for a request. -/
def feedView (now : Time.Instant) (app : AppState) (filter : Option String) (query : String) :
    m (Response × AppState) := do
  let d ← getThe Dashboard
  let store ← getThe Feed.FeedStore
  let filter := match filter with
    | some raw => Feed.FeedFilter.parse raw
    | none => d.store.feedFilter
  let query := Text.trim query
  let visible := Feed.visibleItems store.items filter query
  let signature := Feed.viewSignature filter store.project visible
  let (changed, render) := app.render.changed signature
  let cards := visible.map fun item => Feed.FeedCard.build item (store.newKeys.contains item.key) now
  let body := Json.obj
    [ ("filter", .str filter.name), ("query", .str query),
      ("meta", .str (Feed.metaLine visible.length filter query store.filteredCount store.hasMore)),
      ("signature", .str signature), ("changed", .bool changed), ("has_more", .bool store.hasMore),
      ("loading_more", .bool store.loadingMore), ("cards", .array (cards.map Feed.FeedCard.toJson)) ]
  return (.json body, { app with render })

/-- Answers a request on a route. -/
def serve (api : Backend m) (now : Time.Instant) (app : AppState) (req : Request) :
    Route → m (Response × AppState)
  | .health => return (.text 200 "ok", app)
  | .dashboard => return (← snapshotResponse, app)
  | .feed =>
    match feedQuery (formPairs (req.query?.getD "")) with
    | .error e => return (.text 400 ("Failed to deserialize query string: " ++ e), app)
    | .ok (filter, query) => feedView now app filter query
  | .feedMore => do
    let outcome ← Dashboard.loadMore api
    let (name, n) := match outcome with
      | .applied n => ("applied", n)
      | .skipped => ("skipped", 0)
      | .stale => ("stale", 0)
      | .failed => ("failed", 0)
    let more := (← getThe Feed.FeedStore).hasMore
    return (.json (Json.obj [("outcome", .str name), ("new_items", .nat n), ("has_more", .bool more)]), app)
  | .feedSeen =>
    match plainBody seenDecoder none req with
    | .error r => return (r, app)
    | .ok keys => do
      let cleared ← match keys with
        | some keys => (Feed.acknowledgeKeys keys : m Nat)
        | none => do
          let taken ← (Feed.takeNewKeys : m (List String))
          pure taken.length
      return (.json (Json.obj [("cleared", .nat cleared)]), app)
  | .healthReport => do
    match (← getThe Dashboard).cache.overview with
    | some o => return (.json o.toJson, app)
    | none => return (.text 503 "no refresh has completed yet", app)
  | .refresh => do
    match ← Dashboard.refresh api now with
    | .error e => return (.text 502 e, app)
    | .ok outcome =>
      let snapshot ← (Dashboard.currentSnapshot : m Snapshot)
      return (.json (Json.obj [("queued", .bool (outcome == .queued)), ("snapshot", snapshot.toJson)]), app)
  | .project =>
    match jsonBody projectDecoder req with
    | .error r => return (r, app)
    | .ok project => do
      if ← (Dashboard.setProject (Text.trim project) : m Bool) then
        let _ ← Dashboard.refresh api now
      return (← snapshotResponse, app)
  | .polling =>
    match jsonBody pollingDecoder req with
    | .error r => return (r, app)
    | .ok paused => do
      (Dashboard.setPaused paused : m Unit)
      let d ← getThe Dashboard
      return (.json (Json.obj [("paused", .bool d.cache.paused)]), app)
  | .settings =>
    if req.method == "POST" then
      match jsonBody Settings.SettingsForm.decoder req with
      | .error r => return (r, app)
      | .ok form => do
        match ← Dashboard.saveSettings api form with
        | .error e => return (.text 502 e, app)
        | .ok () =>
          let view := (← getThe Dashboard).settingsView
          return (.json (Json.opt Settings.SettingsView.toJson view), app)
    else do
      match (← getThe Dashboard).settingsView with
      | some v => return (.json v.toJson, app)
      | none => return (.text 503 "config not loaded", app)
  | .syncRun =>
    match plainBody syncRunDecoder none req with
    | .error r => return (r, app)
    | .ok address => do
      let address := (address.map Text.trim).filter (!·.isEmpty)
      match ← Dashboard.triggerSync api now address with
      | .error e => return (.text 502 e, app)
      | .ok () => return (← snapshotResponse, app)
  | .prefs =>
    if req.method == "POST" then
      match jsonBody (Json.Decode.stringMap Json.Decode.string) req with
      | .error r => return (r, app)
      | .ok values => do
        match values.find? (fun (k, _) => !preferenceKeys.contains k) with
        | some (k, _) => return (.text 400 ("unknown preference: " ++ k), app)
        | none =>
          modifyThe Dashboard fun d => values.foldl (fun d (k, v) => withPreference d k v) d
          return (.json (← getThe Dashboard).store.view.toJson, app)
    else do
      return (.json (← getThe Dashboard).store.view.toJson, app)
  | .metrics => return (metricsPage (← getThe Metrics.Registry), app)

/-- Answers a request. -/
def handle (api : Backend m) (now : Time.Instant) (app : AppState) (req : Request) :
    m (Response × AppState) := do
  match routeOf app.metrics req.path with
  | none => return (.empty 404, app)
  | some route =>
    if !route.methods.contains req.method then return (.empty 405, app)
    let (response, app) ← serve api now app req route
    return (if req.method == "HEAD" then { response with body := "" } else response, app)

end Handlers

end Api

end MemoryDashboard
