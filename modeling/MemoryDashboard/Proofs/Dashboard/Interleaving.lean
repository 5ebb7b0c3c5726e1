import MemoryDashboard.Dashboard.Cycle
import MemoryDashboard.Proofs.Feed.Store

/-! # The dashboard under interleaved calls

The dashboard is shared by the tasks that call it. A call touches it only in stretches that run
whole, between two waits on the backend; while one call waits, the others may run. At most one
refresh is ever waiting: a refresh that finds the gate busy queues a follow-up and returns at
once, so only the refresh holding the gate waits.

A `DashboardSystem` is the dashboard with its feed, the refresh waiting on the backend (the
`RefreshRun`), and a log of the health payloads the backend answered, each with the project its
request named, kept only to state where published payloads came from.

A run of the refresh cycle waits on the backend five times: on the health data (statistics,
usage, session and raw events, fetched together for the project the run captured), on the
configuration, on the sync status, on the feed's first pages (only when the feed tab is active
and the feed still shows the captured project in the epoch the run captured), and on the
pairing payload (only when its panel is open). Between two waits the run does what
`Dashboard.refreshOnce` does there, through the same definitions: it takes the feed's pages in
(`Feed.FeedStore.completeFirst`), records its end (`Dashboard.recordRun`), finishes its permit
(`Refresh.Gate.finish`), and begins the follow-up run when one was queued
(`Dashboard.refreshing`).

After its last wait a run checks that the project is still the one it captured, and only then
keeps what it brought (`Dashboard.publish`). The check reads the project under the project's
lock and the keeping writes the cache under the cache's lock, so on a server whose tasks run on
several threads another task may take a step between the two: they are two steps here.

An event is what may happen next: a refresh is asked for, the waiting run moves on (the backend
answers it, or it takes the step after its check), the waiting refresh is given up
(`Dashboard.abandoned`), polling is paused or resumed (`Dashboard.withPaused`), or another
project is selected. Every sequence of events is an interleaving, and a state is reachable when
some interleaving reaches it.
-/

namespace MemoryDashboard

/-- What a waiting run waits on, with what it has gathered so far: the health payloads, then the
configuration, then the sync status, then the pairing payload; or, once it has found its project
still selected, its step that keeps all it brought. -/
inductive RefreshRun.Awaiting where
  | health
  | config (payloads : List Json)
  | sync (payloads : List Json) (config : Option Settings.ConfigPayload)
  | feed (payloads : List Json) (config : Option Settings.ConfigPayload) (sync : Option Sync.StatusReport)
  | pairing (payloads : List Json) (config : Option Settings.ConfigPayload) (sync : Option Sync.StatusReport)
  | publishing (payloads : List Json) (config : Option Settings.ConfigPayload)
      (sync : Option Sync.StatusReport) (pairing : Option Json)

/-- The backend's answer to the call a run waits on. -/
inductive RefreshRun.Answer where
  | health (payloads : Except String (List Json))
  | config (config : Except String Settings.ConfigPayload)
  | sync (status : Except String Sync.StatusReport)
  | feed (pages : Except String (Feed.Page × Feed.Page))
  | pairing (payload : Except String Json)

/-- What moves the waiting run on: the backend's answer to the call it waits on, or, once the run
has found its project still selected, the step that keeps what it brought, at time `now`. -/
inductive RefreshRun.Move where
  | answer (answer : RefreshRun.Answer)
  | keep (now : Time.Instant)

/-- The refresh that holds the gate and waits on the backend: its permit, the project and the
feed's epoch its run captured before its first wait, and what it waits on. -/
structure RefreshRun where
  permit : Refresh.Permit
  project : String
  feedEpoch : Feed.Epoch
  awaiting : RefreshRun.Awaiting

/-- The dashboard, its feed, the refresh waiting on the backend, and the health payloads
answered so far, each with the project its request named. -/
structure DashboardSystem where
  dashboard : Dashboard
  feed : Feed.FeedStore := {}
  waiting : Option RefreshRun := none
  fetched : List (String × List Json) := []

/-- What may happen next. -/
inductive DashboardEvent where
  /-- A refresh is asked for. -/
  | refresh
  /-- The waiting run moves on. -/
  | advance (move : RefreshRun.Move)
  /-- The waiting refresh is given up. -/
  | cancel
  | setPaused (paused : Bool)
  | setProject (project : String)

/-- What a step answers. -/
inductive DashboardReply where
  /-- Another refresh holds the gate: a follow-up is queued. -/
  | queued
  /-- The refresh goes on: it waits on the backend, or on its step after the check. -/
  | waiting
  /-- A run ended with its result; the refresh goes on with a queued follow-up when
  `followUp`. -/
  | ran (result : Except String Unit) (followUp : Bool)
  | cancelled
  | switched (changed : Bool)
  | paused
  /-- No refresh waits on such an answer. -/
  | unexpected

namespace DashboardSystem

/-- A dashboard with the given preferences as it starts: no project selected, nothing refreshed,
polling running, and a new feed. -/
def start (prefs : Prefs.PrefsSession) : DashboardSystem := { dashboard := { prefs } }

/-- A run begins: the dashboard is marked refreshing, and the run captures the project and the
feed's epoch and waits on the health data. -/
def beginRun (c : DashboardSystem) (permit : Refresh.Permit) : DashboardSystem :=
  { c with dashboard := c.dashboard.refreshing,
           waiting := some ⟨permit, c.dashboard.project, c.feed.epoch, .health⟩ }

/-- A run ends with its result: the end is recorded and the permit finished; a queued follow-up
begins the next run. -/
def endRun (c : DashboardSystem) (permit : Refresh.Permit) (result : Except String Unit) :
    DashboardReply × DashboardSystem :=
  let d := c.dashboard.recordRun result
  let (again, gate, permit) := d.gate.finish permit
  let c := { c with dashboard := { d with gate } }
  if again then (.ran result true, c.beginRun permit) else (.ran result false, { c with waiting := none })

/-- The run waits on its next call. -/
def await (c : DashboardSystem) (run : RefreshRun) (awaiting : RefreshRun.Awaiting) :
    DashboardReply × DashboardSystem :=
  (.waiting, { c with waiting := some { run with awaiting } })

/-- The check after the last wait: on another project than the run captured, the run ends
without keeping what it brought; on the same one, it keeps it at its next step. -/
def checkRun (c : DashboardSystem) (run : RefreshRun) (payloads : List Json)
    (config : Option Settings.ConfigPayload) (sync : Option Sync.StatusReport) (pairing : Option Json) :
    DashboardReply × DashboardSystem :=
  if c.dashboard.project != run.project then c.endRun run.permit (.ok ())
  else c.await run (.publishing payloads config sync pairing)

/-- The step after the check: what the run brought is kept, with the health overview of its
payloads at time `now`, and the run ends. -/
def publishRun (c : DashboardSystem) (run : RefreshRun) (payloads : List Json)
    (config : Option Settings.ConfigPayload) (sync : Option Sync.StatusReport) (pairing : Option Json)
    (now : Time.Instant) : DashboardReply × DashboardSystem :=
  endRun
    { c with
        dashboard := c.dashboard.publish (payloads.getD 0 .null) (payloads.getD 1 .null)
          (payloads.getD 2 .null) (payloads.getD 3 .null) config sync pairing now }
    run.permit (.ok ())

/-- After the feed: the pairing payload when its panel is open, else the check. -/
def afterFeed (c : DashboardSystem) (run : RefreshRun) (payloads : List Json)
    (config : Option Settings.ConfigPayload) (sync : Option Sync.StatusReport) :
    DashboardReply × DashboardSystem :=
  if c.dashboard.pairingOpen then c.await run (.pairing payloads config sync)
  else c.checkRun run payloads config sync none

/-- After the sync status: the feed's first pages when the feed tab is active and the feed
still shows the captured project in the captured epoch; else on without them. -/
def afterSync (c : DashboardSystem) (run : RefreshRun) (payloads : List Json)
    (config : Option Settings.ConfigPayload) (sync : Option Sync.StatusReport) :
    DashboardReply × DashboardSystem :=
  if c.dashboard.store.activeTab == .feed && run.feedEpoch.project == run.project &&
      c.feed.isCurrent run.feedEpoch then
    c.await run (.feed payloads config sync)
  else c.afterFeed run payloads config sync

/-- The waiting run moves on: with the backend's answer to the call it waits on, or, after its
check, by keeping what it brought. Any other move is unexpected. -/
def resume (c : DashboardSystem) (run : RefreshRun) :
    RefreshRun.Awaiting → RefreshRun.Move → DashboardReply × DashboardSystem
  | .health, .answer (.health (.error e)) => c.endRun run.permit (.error ("loading health data: " ++ e))
  | .health, .answer (.health (.ok payloads)) =>
    { c with fetched := c.fetched ++ [(run.project, payloads)] }.await run (.config payloads)
  | .config payloads, .answer (.config config) => c.await run (.sync payloads config.toOption)
  | .sync payloads config, .answer (.sync status) => c.afterSync run payloads config status.toOption
  | .feed _ _ _, .answer (.feed (.error e)) =>
    c.endRun run.permit
      (.error ("loading first feed page for project " ++ Json.debugQuote run.feedEpoch.project ++ ": " ++ e))
  | .feed payloads config sync, .answer (.feed (.ok (observations, summaries))) =>
    { c with feed := (c.feed.completeFirst run.feedEpoch observations summaries).2 }.afterFeed run
      payloads config sync
  | .pairing payloads config sync, .answer (.pairing payload) =>
    c.checkRun run payloads config sync payload.toOption
  | .publishing payloads config sync pairing, .keep now => c.publishRun run payloads config sync pairing now
  | _, _ => (.unexpected, c)

/-- One step. -/
def step (c : DashboardSystem) : DashboardEvent → DashboardReply × DashboardSystem
  | .refresh =>
    match c.dashboard.gate.tryBegin with
    | (none, gate) => (.queued, { c with dashboard := { c.dashboard with gate } })
    | (some permit, gate) => (.waiting, { c with dashboard := { c.dashboard with gate } }.beginRun permit)
  | .advance move =>
    match c.waiting with
    | some run => c.resume run run.awaiting move
    | none => (.unexpected, c)
  | .cancel =>
    match c.waiting with
    | some _ => (.cancelled, { c with dashboard := c.dashboard.abandoned, waiting := none })
    | none => (.unexpected, c)
  | .setPaused paused => (.paused, { c with dashboard := c.dashboard.withPaused paused })
  | .setProject project =>
    if c.dashboard.project == project then (.switched false, c)
    else
      (.switched true,
        { c with dashboard := { c.dashboard with project }, feed := (c.feed.withProject project).2 })

/-- The state after a sequence of events. -/
def run (c : DashboardSystem) (events : List DashboardEvent) : DashboardSystem :=
  events.foldl (fun c event => (c.step event).2) c

/-- The states some interleaving reaches from a dashboard as it starts. -/
inductive Reachable : DashboardSystem → Prop
  | start (prefs : Prefs.PrefsSession) : Reachable (start prefs)
  | step {c : DashboardSystem} (reachable : Reachable c) (event : DashboardEvent) :
      Reachable (c.step event).2

theorem Reachable.run {c : DashboardSystem} (reachable : c.Reachable) (events : List DashboardEvent) :
    (c.run events).Reachable := by
  induction events generalizing c with
  | nil => exact reachable
  | cons event rest ih => exact ih (reachable.step event)

/-! ### What the dashboard's stretches change -/

section Fields

variable (d : Dashboard)

@[simp] theorem refreshing_state : d.refreshing.cache.state = .refreshing := rfl
@[simp] theorem refreshing_paused : d.refreshing.cache.paused = d.cache.paused := rfl
@[simp] theorem refreshing_lastError : d.refreshing.cache.lastError = d.cache.lastError := rfl
@[simp] theorem refreshing_gate : d.refreshing.gate = d.gate := rfl
@[simp] theorem refreshing_project : d.refreshing.project = d.project := rfl

@[simp] theorem recordRun_paused (result : Except String Unit) :
    (d.recordRun result).cache.paused = d.cache.paused := by
  cases result <;> rfl
@[simp] theorem recordRun_gate (result : Except String Unit) : (d.recordRun result).gate = d.gate := rfl
@[simp] theorem recordRun_project (result : Except String Unit) :
    (d.recordRun result).project = d.project := rfl

theorem recordRun_ok : (d.recordRun (.ok ())).cache =
    { d.cache with lastError := none, state := d.cache.settled } := rfl

theorem recordRun_error (e : String) : (d.recordRun (.error e)).cache =
    { d.cache with lastError := some e, state := .error } := rfl

@[simp] theorem abandoned_gate : d.abandoned.gate = {} := rfl
@[simp] theorem abandoned_paused : d.abandoned.cache.paused = d.cache.paused := by
  simp only [Dashboard.abandoned]
  split <;> rfl
@[simp] theorem abandoned_lastError : d.abandoned.cache.lastError = d.cache.lastError := by
  simp only [Dashboard.abandoned]
  split <;> rfl
@[simp] theorem abandoned_project : d.abandoned.project = d.project := rfl

theorem abandoned_state :
    d.abandoned.cache.state = if d.cache.state = .refreshing then d.cache.settled else d.cache.state := by
  simp only [Dashboard.abandoned]
  split <;> rfl

@[simp] theorem withPaused_paused (paused : Bool) : (d.withPaused paused).cache.paused = paused := rfl
@[simp] theorem withPaused_lastError (paused : Bool) :
    (d.withPaused paused).cache.lastError = d.cache.lastError := rfl
@[simp] theorem withPaused_gate (paused : Bool) : (d.withPaused paused).gate = d.gate := rfl
@[simp] theorem withPaused_project (paused : Bool) : (d.withPaused paused).project = d.project := rfl

theorem withPaused_state (paused : Bool) : (d.withPaused paused).cache.state =
    if paused then .paused else if d.cache.state = .paused then .idle else d.cache.state := rfl

end Fields

section Publish

variable (d : Dashboard) (stats usage session rawEvents : Json) (config : Option Settings.ConfigPayload)
  (sync : Option Sync.StatusReport) (pairing : Option Json) (now : Time.Instant)

theorem publish_cache_keep : (d.publish stats usage session rawEvents config sync pairing now).cache =
    d.cache.keep stats usage session rawEvents config sync d.store.syncRedaction pairing
      (overviewOf stats usage rawEvents sync now) now := rfl

@[simp] theorem publish_gate : (d.publish stats usage session rawEvents config sync pairing now).gate = d.gate := rfl
@[simp] theorem publish_project :
    (d.publish stats usage session rawEvents config sync pairing now).project = d.project := rfl
@[simp] theorem publish_prefs :
    (d.publish stats usage session rawEvents config sync pairing now).prefs = d.prefs := rfl

end Publish

/-- Keeping what a run brought leaves where the cycle stands as it was. -/
@[simp] theorem Cache.keep_state (c : Cache) (stats usage session rawEvents : Json)
    (config : Option Settings.ConfigPayload) (sync : Option Sync.StatusReport) (redact : Bool)
    (pairing : Option Json) (overview : Health.HealthOverview) (now : Time.Instant) :
    (c.keep stats usage session rawEvents config sync redact pairing overview now).state = c.state ∧
      (c.keep stats usage session rawEvents config sync redact pairing overview now).paused = c.paused ∧
      (c.keep stats usage session rawEvents config sync redact pairing overview now).lastError =
        c.lastError := by
  unfold Cache.keep
  cases sync <;> cases config.isSome <;> simp

/-! ### What one step does -/

theorem step_refresh_busy {c : DashboardSystem} (busy : c.dashboard.gate.busy = true) :
    c.step .refresh =
      (.queued, { c with dashboard := { c.dashboard with gate := { c.dashboard.gate with queued := true } } }) := by
  simp [step, Refresh.Gate.tryBegin, busy]

theorem step_refresh_free {c : DashboardSystem} (free : c.dashboard.gate.busy = false) :
    c.step .refresh =
      (.waiting, { c with dashboard := { c.dashboard with gate := { c.dashboard.gate with busy := true } } }.beginRun {}) := by
  simp [step, Refresh.Gate.tryBegin, free]

theorem step_advance {c : DashboardSystem} {run : RefreshRun} (waiting : c.waiting = some run)
    (move : RefreshRun.Move) : c.step (.advance move) = c.resume run run.awaiting move := by
  simp [step, waiting]

theorem step_cancel {c : DashboardSystem} {run : RefreshRun} (waiting : c.waiting = some run) :
    c.step .cancel = (.cancelled, { c with dashboard := c.dashboard.abandoned, waiting := none }) := by
  simp [step, waiting]

theorem step_idle {c : DashboardSystem} (idle : c.waiting = none) (move : RefreshRun.Move) :
    c.step (.advance move) = (.unexpected, c) ∧ c.step .cancel = (.unexpected, c) := by
  simp [step, idle]

theorem step_setProject_same {c : DashboardSystem} {project : String} (same : c.dashboard.project = project) :
    c.step (.setProject project) = (.switched false, c) := by
  simp [step, same]

theorem step_setProject_other {c : DashboardSystem} {project : String}
    (other : c.dashboard.project ≠ project) :
    c.step (.setProject project) =
      (.switched true, { c with dashboard := { c.dashboard with project }, feed := (c.feed.withProject project).2 }) := by
  simp [step, other]

theorem endRun_eq (c : DashboardSystem) (permit : Refresh.Permit) (result : Except String Unit) :
    c.endRun permit result =
      if c.dashboard.gate.queued then
        (.ran result true,
          { c with dashboard := { c.dashboard.recordRun result with
              gate := { c.dashboard.gate with queued := false } } }.beginRun permit)
      else
        (.ran result false,
          { c with dashboard := { c.dashboard.recordRun result with
              gate := { c.dashboard.gate with busy := false } }, waiting := none }) := by
  unfold endRun
  cases queued : c.dashboard.gate.queued <;> simp [Refresh.Gate.finish, queued]

end DashboardSystem

end MemoryDashboard
