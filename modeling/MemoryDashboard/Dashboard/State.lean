import MemoryDashboard.Feed.Store
import MemoryDashboard.Health.Overview
import MemoryDashboard.Sync.View
import MemoryDashboard.Sync.Pairing
import MemoryDashboard.Settings.View
import MemoryDashboard.Prefs.Store
import MemoryDashboard.Refresh.Gate
/-!
# The dashboard's state

Besides its feed, the dashboard holds its preferences (and the disk they are kept on), the
refresh gate, the selected project (empty for all projects) and what the last good refresh
brought: the payloads, the sync status and its panel, the pairing payload, the configuration
and the health overview, with the time of that refresh. It also knows whether a refresh is
running, whether polling is paused, and the error of the last refresh when it failed.

A snapshot is everything the dashboard's API hands out at once.
-/

namespace MemoryDashboard

/-- Where the refresh cycle stands. -/
inductive RefreshState where
  | idle
  | refreshing
  | paused
  | error
  deriving DecidableEq, Inhabited, Repr

/-- The state's name. -/
def RefreshState.name : RefreshState → String
  | .idle => "idle"
  | .refreshing => "refreshing"
  | .paused => "paused"
  | .error => "error"

/-- How a refresh request ended. -/
inductive RefreshOutcome where
  | completed
  /-- Another refresh was running; it runs once more when done. -/
  | queued
  deriving DecidableEq, Inhabited, Repr

/-- What the last good refresh brought, and where the cycle stands. -/
structure Cache where
  state : RefreshState := .idle
  paused : Bool := false
  lastRefreshAt : Option Time.Instant := none
  lastError : Option String := none
  stats : Json := .null
  usage : Json := .null
  session : Json := .null
  rawEvents : Json := .null
  config : Option Settings.ConfigPayload := none
  sync : Option Sync.StatusReport := none
  syncView : Option Sync.SyncView := none
  pairing : Option Json := none
  overview : Option Health.HealthOverview := none
  deriving Inhabited

/-- The dashboard, apart from its feed. -/
structure Dashboard where
  prefs : Prefs.PrefsSession
  gate : Refresh.Gate := {}
  project : String := ""
  cache : Cache := {}
  deriving Inhabited

/-- Everything the dashboard hands out in one answer. -/
structure Snapshot where
  state : RefreshState
  project : String
  lastRefreshAt : Option Time.Instant
  lastError : Option String
  prefs : Prefs.PrefsView
  health : Option Health.HealthOverview
  sync : Sync.SyncView
  pairing : Option Sync.PairingView
  settings : Option Settings.SettingsView
  session : Json
  feedItems : Nat
  feedHasMore : Bool
  feedFiltered : Nat
  deriving Inhabited

/-- The state after a cycle stops running: paused when polling is paused, else idle. -/
def Cache.settled (c : Cache) : RefreshState := if c.paused then .paused else .idle

namespace Dashboard

/-- The preference store. -/
def store (d : Dashboard) : Prefs.PrefsStore := d.prefs.store

/-- Whether the sync diagnostics panel is open. -/
def diagnosticsOpen (d : Dashboard) : Bool := d.store.flag Prefs.syncDiagnosticsKey

/-- Whether the pairing panel is open. -/
def pairingOpen (d : Dashboard) : Bool := d.store.flag Prefs.syncPairingKey

/-- Pauses or resumes polling; resuming leaves a paused state for idle. -/
def withPaused (d : Dashboard) (paused : Bool) : Dashboard :=
  let c := d.cache
  let state := if paused then .paused else if c.state = .paused then .idle else c.state
  { d with cache := { c with paused, state } }

/-- The settings panel, once a configuration arrived. -/
def settingsView (d : Dashboard) : Option Settings.SettingsView :=
  d.cache.config.map Settings.SettingsView.build

/-- The snapshot of the dashboard with its feed. -/
def snapshot (d : Dashboard) (feed : Feed.FeedStore) : Snapshot :=
  let c := d.cache
  { state := c.state, project := d.project, lastRefreshAt := c.lastRefreshAt
    lastError := c.lastError, prefs := d.store.view, health := c.overview
    sync := c.syncView.getD Sync.SyncView.loading
    pairing := if d.pairingOpen then some (Sync.PairingView.build c.pairing) else none
    settings := d.settingsView, session := c.session, feedItems := feed.items.length
    feedHasMore := feed.hasMore, feedFiltered := feed.filteredCount }

end Dashboard

/-- The snapshot as the dashboard writes it. -/
def Snapshot.toJson (s : Snapshot) : Json :=
  Json.obj
    [ ("state", .str s.state.name), ("project", .str s.project),
      ("last_refresh_at", Json.opt (fun t => .str t.utcText) s.lastRefreshAt),
      ("last_error", Json.opt Json.str s.lastError), ("prefs", s.prefs.toJson),
      ("health", Json.opt Health.HealthOverview.toJson s.health), ("sync", s.sync.toJson),
      ("pairing", Json.opt Sync.PairingView.toJson s.pairing),
      ("settings", Json.opt Settings.SettingsView.toJson s.settings), ("session", s.session),
      ("feed_items", .nat s.feedItems), ("feed_has_more", .bool s.feedHasMore),
      ("feed_filtered", .nat s.feedFiltered) ]

end MemoryDashboard
