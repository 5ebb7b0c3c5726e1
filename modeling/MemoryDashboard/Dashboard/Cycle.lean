import MemoryDashboard.Dashboard.State
/-!
# The refresh cycle

One refresh runs at a time (`Refresh.Gate`). A refresh asked for while one runs queues a single
follow-up, and further requests fold into it; the running refresh then runs once more before it
ends. Its outcome is that of its last run.

One run loads, in this order:

1. statistics, usage, the session and the raw-event queue, together; a failure fails the run;
2. the configuration and the sync status (with diagnostics when that panel is open); a failure
   of either only leaves it out;
3. the feed's first page, when the feed tab is active and the feed still shows the selected
   project; a failure fails the run;
4. the pairing payload, when that panel is open; a failure only leaves it out.

When the project changed meanwhile, the run ends without keeping anything. Otherwise it keeps
the payloads, a configuration when one arrived, the sync status and its panel (the panel for an
unavailable sync when none arrived), the pairing payload, the health overview and the time.

Every run counts as a refresh run, a failed one also as a failed run; a run that keeps what it
brought records the overview's risk score.

A refresh that is given up before it ends frees the gate, drops its follow-up, and leaves a
running state for idle (or paused).
-/

namespace MemoryDashboard

/-- Keeps what a run brought. -/
def Cache.keep (c : Cache) (stats usage session rawEvents : Json)
    (config : Option Settings.ConfigPayload) (sync : Option Sync.StatusReport) (redact : Bool)
    (pairing : Option Json) (overview : Health.HealthOverview) (now : Time.Instant) : Cache :=
  let c := { c with stats, usage, session, rawEvents, pairing, overview := some overview,
                    lastRefreshAt := some now }
  let c := if config.isSome then { c with config } else c
  match sync with
  | some report => { c with sync := some report, syncView := some (Sync.SyncView.build report redact now) }
  | none => { c with syncView := some Sync.SyncView.unavailable }

/-- Records the end of a run. -/
def Cache.afterRun (c : Cache) : Except String Unit → Cache
  | .ok () => { c with lastError := none, state := c.settled }
  | .error e => { c with lastError := some e, state := .error }

/-- The health overview of a run's payloads. -/
def overviewOf (stats usage rawEvents : Json) (sync : Option Sync.StatusReport) (now : Time.Instant) :
    Health.HealthOverview :=
  Health.HealthOverview.build (Health.HealthInputs.ofPayloads stats usage rawEvents sync now)

namespace Dashboard

/-- Marks a run as running. -/
def refreshing (d : Dashboard) : Dashboard := { d with cache := { d.cache with state := .refreshing } }

/-- Records the end of a run. -/
def recordRun (d : Dashboard) (result : Except String Unit) : Dashboard :=
  { d with cache := d.cache.afterRun result }

/-- Keeps what a run brought, with the health overview of its payloads; the sync panel is
redacted as the preferences say. -/
def publish (d : Dashboard) (stats usage session rawEvents : Json)
    (config : Option Settings.ConfigPayload) (sync : Option Sync.StatusReport) (pairing : Option Json)
    (now : Time.Instant) : Dashboard :=
  { d with cache := d.cache.keep stats usage session rawEvents config sync d.store.syncRedaction pairing
                      (overviewOf stats usage rawEvents sync now) now }

/-- A refresh given up before it ended: the gate is freed with its follow-up dropped, and a
dashboard still marked refreshing goes idle, or paused while polling is paused. -/
def abandoned (d : Dashboard) : Dashboard :=
  let c := d.cache
  { d with gate := {}, cache := if c.state = .refreshing then { c with state := c.settled } else c }

section Operations

variable {m : Type → Type} [Monad m] [MonadStateOf Dashboard m] [MonadStateOf Feed.FeedStore m]
  [MonadStateOf Metrics.Registry m] [MonadExceptOf Waiting m]

/-- Selects a project (empty for all) and switches the feed to it; answers whether it
changed. -/
def setProject (project : String) : m Bool := do
  let d ← getThe Dashboard
  if d.project == project then return false
  MonadStateOf.set { d with project }
  let _ ← (Feed.setProject project : m Bool)
  return true

/-- Pauses or resumes polling. -/
def setPaused (paused : Bool) : m Unit :=
  modifyThe Dashboard (·.withPaused paused)

/-- One run of the cycle. -/
def refreshOnce (api : Backend m) (now : Time.Instant) : m (Except String Unit) := do
  let project := (← getThe Dashboard).project
  let feedEpoch := (← getThe Feed.FeedStore).epoch
  let payloads ← Backend.joinAll [api.stats, api.usage project, api.session project, api.rawEvents project]
  match payloads with
  | .error e => return .error ("loading health data: " ++ e)
  | .ok payloads =>
    let config := (← api.config).toOption
    let sync := (← api.syncStatus (← getThe Dashboard).diagnosticsOpen).toOption
    let feedResult ←
      if (← getThe Dashboard).store.activeTab == .feed && feedEpoch.project == project then
        Feed.refreshFirstPage api feedEpoch
      else pure (.ok .stale)
    match feedResult with
    | .error e => return .error e
    | .ok _ =>
      let pairing ← if (← getThe Dashboard).pairingOpen then (·.toOption) <$> api.pairing else pure none
      let d ← getThe Dashboard
      if d.project != project then return .ok ()
      let stats := payloads.getD 0 .null
      let usage := payloads.getD 1 .null
      let rawEvents := payloads.getD 3 .null
      Metrics.setValue .healthRiskScore (overviewOf stats usage rawEvents sync now).report.riskScore
      MonadStateOf.set (d.publish stats usage (payloads.getD 2 .null) rawEvents config sync pairing now)
      return .ok ()

/-- One run: marks the cycle running, runs it, records its end, and finishes the permit;
answers the run's result, whether a follow-up was queued, and the permit. -/
def runOnce (api : Backend m) (now : Time.Instant) (permit : Refresh.Permit) :
    m (Except String Unit × Bool × Refresh.Permit) := do
  modifyThe Dashboard Dashboard.refreshing
  let result ← refreshOnce api now
  Metrics.increment .refreshTotal 1
  if result matches .error _ then Metrics.increment .refreshErrorsTotal 1
  modifyThe Dashboard (·.recordRun result)
  let d ← getThe Dashboard
  let (again, gate, permit) := d.gate.finish permit
  MonadStateOf.set { d with gate }
  return (result, again, permit)

/-- One round of the follow-up loop: a run, then the next permit when a follow-up was queued
while it ran, or the refresh's result. -/
def refreshRound (api : Backend m) (now : Time.Instant) (permit : Refresh.Permit) :
    m (Refresh.Permit ⊕ Except String RefreshOutcome) := do
  let (result, again, permit) ← runOnce api now permit
  if again then return .inl permit else return .inr (result.map fun () => .completed)

/-- Runs the cycle again for as long as a follow-up was queued while it ran. Nothing bounds the
rounds: every run after the first needs a refresh request made while the one before ran. -/
def runRounds (api : Backend m) (now : Time.Instant) (permit : Refresh.Permit) :
    m (Except String RefreshOutcome) :=
  repeatM (refreshRound api now) permit

/-- Asks for a refresh: runs one when none runs, else queues a follow-up. -/
def refresh (api : Backend m) (now : Time.Instant) : m (Except String RefreshOutcome) := do
  let d ← getThe Dashboard
  let (permit, gate) := d.gate.tryBegin
  MonadStateOf.set { d with gate }
  match permit with
  | none => return .ok .queued
  | some permit => runRounds api now permit

/-- Gives up a refresh that never ended: frees the gate, drops the follow-up, and moves a
dashboard still marked refreshing to idle, or to paused while polling is paused. -/
def abandonRefresh : m Unit :=
  modifyThe Dashboard Dashboard.abandoned

/-- Loads the feed's next page. -/
def loadMore (api : Backend m) : m Feed.NextPageOutcome := Feed.loadNextPage api

/-- Asks for a sync pass, then refreshes; only the request's failure is reported. -/
def triggerSync (api : Backend m) (now : Time.Instant) (address : Option String) :
    m (Except String Unit) := do
  match ← api.triggerSync address with
  | .error e => return .error e
  | .ok () =>
    let _ ← refresh api now
    return .ok ()

/-- Saves the settings form; on success the configuration is reloaded when it can be. -/
def saveSettings (api : Backend m) (form : Settings.SettingsForm) : m (Except String Unit) := do
  match ← api.saveConfig form.toPayload with
  | .error e => return .error e
  | .ok () =>
    match ← api.config with
    | .ok config => modifyThe Dashboard fun d => { d with cache := { d.cache with config := some config } }
    | .error _ => pure ()
    return .ok ()

/-- The current snapshot. -/
def currentSnapshot : m Snapshot := do
  return (← getThe Dashboard).snapshot (← getThe Feed.FeedStore)

end Operations

end Dashboard

end MemoryDashboard
