import MemoryDashboard.Proofs.Dashboard.Interleaving

/-! # What a refresh publishes, and when

After its last wait a run of the refresh cycle checks that the dashboard's project is still the
one it captured before its first wait, and at its next step keeps what it brought: the
payloads, the sync status and its panel, the pairing payload, the health overview and the time.
The check and the keeping take different locks, so another step may come between them. In every
interleaving with project switches:

* the published fields change only at the step after a run's check, all at once, to the health
  payloads the run fetched for the project it captured and the overview computed from them;
* a run passes its check only at a step where the dashboard's project is the one it captured;
* yet a project switch between the check and the next step publishes the health data of one
  project while the dashboard shows another (`switch_after_check_publishes_other_project`);
* a run that fails changes only where the cycle stands and the error, and leaves the feed;
* a step after which the run still goes on leaves the dashboard as it was;
* no step but a project switch changes the feed's project or generation.

`Resumed` says once what moving the waiting run on may do, and `Stepped` what one step may do;
the rest follows from them and from what ending a run (`endRun`) changes.
-/

namespace MemoryDashboard

/-- What a refresh publishes: the payloads, the sync status and its panel, the pairing payload,
the health overview and the time of the refresh. -/
structure Published where
  stats : Json
  usage : Json
  session : Json
  rawEvents : Json
  sync : Option Sync.StatusReport
  syncView : Option Sync.SyncView
  pairing : Option Json
  overview : Option Health.HealthOverview
  lastRefreshAt : Option Time.Instant

/-- The published fields of the cache. -/
def Cache.published (c : Cache) : Published :=
  ⟨c.stats, c.usage, c.session, c.rawEvents, c.sync, c.syncView, c.pairing, c.overview, c.lastRefreshAt⟩

/-- The health payloads a run has gathered, once it has them. -/
def RefreshRun.Awaiting.payloads? : RefreshRun.Awaiting → Option (List Json)
  | .health => none
  | .config payloads => some payloads
  | .sync payloads _ => some payloads
  | .feed payloads _ _ => some payloads
  | .pairing payloads _ _ => some payloads
  | .publishing payloads _ _ _ => some payloads

/-- Whether a run has passed its check, and waits only on the step that keeps what it brought. -/
def RefreshRun.Awaiting.checked : RefreshRun.Awaiting → Bool
  | .publishing _ _ _ _ => true
  | _ => false

namespace DashboardSystem

/-! ### Steps that publish nothing -/

@[simp] theorem refreshing_published (d : Dashboard) : d.refreshing.cache.published = d.cache.published := rfl

@[simp] theorem recordRun_published (d : Dashboard) (result : Except String Unit) :
    (d.recordRun result).cache.published = d.cache.published := by
  cases result <;> rfl

@[simp] theorem abandoned_published (d : Dashboard) : d.abandoned.cache.published = d.cache.published := by
  simp only [Dashboard.abandoned]
  split <;> rfl

@[simp] theorem withPaused_published (d : Dashboard) (paused : Bool) :
    (d.withPaused paused).cache.published = d.cache.published := rfl

theorem endRun_reply (c : DashboardSystem) (permit : Refresh.Permit) (result : Except String Unit) :
    (c.endRun permit result).1 = .ran result c.dashboard.gate.queued := by
  rw [endRun_eq]
  split <;> simp_all

theorem endRun_feed (c : DashboardSystem) (permit : Refresh.Permit) (result : Except String Unit) :
    (c.endRun permit result).2.feed = c.feed := by
  rw [endRun_eq]
  split <;> rfl

theorem endRun_published (c : DashboardSystem) (permit : Refresh.Permit) (result : Except String Unit) :
    (c.endRun permit result).2.dashboard.cache.published = c.dashboard.cache.published := by
  rw [endRun_eq]
  split <;> simp [beginRun]

/-- A run that ends leaves no run waiting past its check: a follow-up begins on the health
data. -/
theorem endRun_unchecked (c : DashboardSystem) (permit : Refresh.Permit) (result : Except String Unit)
    {run : RefreshRun} (waiting : (c.endRun permit result).2.waiting = some run) :
    run.awaiting.checked = false := by
  rw [endRun_eq] at waiting
  split at waiting
  · simp only [beginRun, Option.some.injEq] at waiting
    rw [← waiting]
    rfl
  · cases waiting

/-- A run that fails records its error, and only that and where the cycle stands change. -/
theorem endRun_error_cache (c : DashboardSystem) (permit : Refresh.Permit) (e : String) :
    (c.endRun permit (.error e)).2.dashboard.cache =
      { c.dashboard.cache with state := (c.endRun permit (.error e)).2.dashboard.cache.state,
                               lastError := some e } := by
  rw [endRun_eq]
  split <;> rfl

theorem checkRun_eq (c : DashboardSystem) (run : RefreshRun) (payloads : List Json)
    (config : Option Settings.ConfigPayload) (sync : Option Sync.StatusReport) (pairing : Option Json) :
    c.checkRun run payloads config sync pairing =
      if c.dashboard.project = run.project then c.await run (.publishing payloads config sync pairing)
      else c.endRun run.permit (.ok ()) := by
  unfold checkRun
  by_cases same : c.dashboard.project = run.project <;> simp [same]

/-! ### What moving the waiting run on does -/

/-- What moving the waiting run on may do: nothing, when the move is not the one it waits on;
on the backend's answer, keep it waiting, with the dashboard as it was, the feed's epoch and held
keys kept, and the log grown by the payloads it gathered; end it with an error; end it at its
check, on another project than it captured, keeping nothing; or pass its check on the project it
captured, with the health payloads it gathered, after the feed kept its epoch; and, at the step
after the check, keep what it brought and end it. -/
inductive Resumed (c : DashboardSystem) (run : RefreshRun) :
    RefreshRun.Move → DashboardReply × DashboardSystem → Prop
  | unexpected {move : RefreshRun.Move} : Resumed c run move (.unexpected, c)
  | waits {a : RefreshRun.Answer} {awaiting : RefreshRun.Awaiting} {feed : Feed.FeedStore}
      {fetched : List (String × List Json)} (unchecked : awaiting.checked = false)
      (keeps : c.feed.Keeps feed) (grows : ∀ entry ∈ c.fetched, entry ∈ fetched)
      (gathered : ∀ payloads, awaiting.payloads? = some payloads →
        (run.project, payloads) ∈ fetched ∨ run.awaiting.payloads? = some payloads) :
      Resumed c run (.answer a) (.waiting, { c with waiting := some { run with awaiting }, feed, fetched })
  | fails {a : RefreshRun.Answer} (e : String) : Resumed c run (.answer a) (c.endRun run.permit (.error e))
  | discards {a : RefreshRun.Answer} {feed : Feed.FeedStore} (other : c.dashboard.project ≠ run.project)
      (keeps : c.feed.Keeps feed) : Resumed c run (.answer a) ({ c with feed }.endRun run.permit (.ok ()))
  | checks {a : RefreshRun.Answer} {payloads : List Json} {config : Option Settings.ConfigPayload}
      {sync : Option Sync.StatusReport} {pairing : Option Json} {feed : Feed.FeedStore}
      (same : c.dashboard.project = run.project) (gathered : run.awaiting.payloads? = some payloads)
      (keeps : c.feed.Keeps feed) :
      Resumed c run (.answer a)
        (.waiting, { c with waiting := some { run with awaiting := .publishing payloads config sync pairing }, feed })
  | publishes {payloads : List Json} {config : Option Settings.ConfigPayload}
      {sync : Option Sync.StatusReport} {pairing : Option Json} {now : Time.Instant}
      (publishing : run.awaiting = .publishing payloads config sync pairing) :
      Resumed c run (.keep now) (c.publishRun run payloads config sync pairing now)

section Resumed

variable {c : DashboardSystem} {run : RefreshRun} {a : RefreshRun.Answer}

/-- A run that waits on with no more health payloads than it had gathered. -/
theorem Resumed.waitsOn {awaiting : RefreshRun.Awaiting} {feed : Feed.FeedStore} {payloads : List Json}
    (unchecked : awaiting.checked = false) (keeps : c.feed.Keeps feed)
    (had : run.awaiting.payloads? = some payloads) (has : awaiting.payloads? = some payloads) :
    Resumed c run (.answer a) (.waiting, { c with waiting := some { run with awaiting }, feed }) :=
  .waits unchecked keeps (fun _ => id) fun _ found => .inr (by rw [had]; exact has.symm.trans found)

theorem resumed_checkRun {payloads : List Json} {config : Option Settings.ConfigPayload}
    {sync : Option Sync.StatusReport} {pairing : Option Json} {feed : Feed.FeedStore}
    (keeps : c.feed.Keeps feed) (gathered : run.awaiting.payloads? = some payloads) :
    Resumed c run (.answer a) ({ c with feed }.checkRun run payloads config sync pairing) := by
  rw [checkRun_eq]
  split
  · next same => exact .checks same gathered keeps
  · next other => exact .discards other keeps

theorem resumed_afterFeed {payloads : List Json} {config : Option Settings.ConfigPayload}
    {sync : Option Sync.StatusReport} {feed : Feed.FeedStore} (keeps : c.feed.Keeps feed)
    (gathered : run.awaiting.payloads? = some payloads) :
    Resumed c run (.answer a) ({ c with feed }.afterFeed run payloads config sync) := by
  unfold afterFeed
  split
  · exact .waitsOn rfl keeps gathered rfl
  · exact resumed_checkRun keeps gathered

theorem resumed_afterSync {payloads : List Json} {config : Option Settings.ConfigPayload}
    {sync : Option Sync.StatusReport} (gathered : run.awaiting.payloads? = some payloads) :
    Resumed c run (.answer a) (c.afterSync run payloads config sync) := by
  unfold afterSync
  split
  · exact .waitsOn rfl (Feed.FeedStore.Keeps.refl _) gathered rfl
  · exact resumed_afterFeed (Feed.FeedStore.Keeps.refl _) gathered

variable (c run) in
/-- Every move does one of the things `Resumed` lists. -/
theorem resumed (move : RefreshRun.Move) : Resumed c run move (c.resume run run.awaiting move) := by
  cases move with
  | keep now =>
    cases awaiting : run.awaiting
    case publishing payloads config sync pairing => exact .publishes awaiting
    all_goals exact .unexpected
  | answer a =>
    cases awaiting : run.awaiting <;> cases a
    case health.health payloads =>
      rcases payloads with e | payloads
      · exact .fails _
      · exact .waits rfl (Feed.FeedStore.Keeps.refl _) (fun _ member => List.mem_append_left _ member)
          (fun _ gathered => .inl (by simp_all [RefreshRun.Awaiting.payloads?]))
    case config.config payloads config =>
      exact .waitsOn rfl (Feed.FeedStore.Keeps.refl _) (by simp [awaiting, RefreshRun.Awaiting.payloads?]) rfl
    case sync.sync payloads config status =>
      exact resumed_afterSync (by simp [awaiting, RefreshRun.Awaiting.payloads?])
    case feed.feed payloads config sync pages =>
      rcases pages with e | ⟨observations, summaries⟩
      · exact .fails _
      · exact resumed_afterFeed (Feed.FeedStore.completeFirst_keeps _ _ _ _)
          (by simp [awaiting, RefreshRun.Awaiting.payloads?])
    case pairing.pairing payloads config sync payload =>
      exact resumed_checkRun (Feed.FeedStore.Keeps.refl _) (by simp [awaiting, RefreshRun.Awaiting.payloads?])
    all_goals exact .unexpected

end Resumed

/-! ### What one step can do -/

/-- What one step can do: a refresh queues a follow-up on a busy gate or begins a run on a free
one; a move goes on with the waiting run as `Resumed` says, or is unexpected when none waits;
the waiting refresh is given up, or there is none; polling is paused or resumed; another
project is selected, or the same one again. -/
inductive Stepped (c : DashboardSystem) : DashboardEvent → DashboardReply × DashboardSystem → Prop
  | queues (busy : c.dashboard.gate.busy = true) :
      Stepped c .refresh
        (.queued, { c with dashboard := { c.dashboard with gate := { c.dashboard.gate with queued := true } } })
  | begins (free : c.dashboard.gate.busy = false) :
      Stepped c .refresh
        (.waiting, { c with dashboard := { c.dashboard with gate := { c.dashboard.gate with busy := true } } }.beginRun {})
  | resumes {run : RefreshRun} {move : RefreshRun.Move} {result : DashboardReply × DashboardSystem}
      (waiting : c.waiting = some run) (resumed : Resumed c run move result) : Stepped c (.advance move) result
  | unexpected {move : RefreshRun.Move} (idle : c.waiting = none) : Stepped c (.advance move) (.unexpected, c)
  | cancels {run : RefreshRun} (waiting : c.waiting = some run) :
      Stepped c .cancel (.cancelled, { c with dashboard := c.dashboard.abandoned, waiting := none })
  | cancelsNothing (idle : c.waiting = none) : Stepped c .cancel (.unexpected, c)
  | pauses (paused : Bool) :
      Stepped c (.setPaused paused) (.paused, { c with dashboard := c.dashboard.withPaused paused })
  | stays {project : String} (same : c.dashboard.project = project) :
      Stepped c (.setProject project) (.switched false, c)
  | switches {project : String} (other : c.dashboard.project ≠ project) :
      Stepped c (.setProject project)
        (.switched true, { c with dashboard := { c.dashboard with project }, feed := (c.feed.withProject project).2 })

/-- Every step does one of the things `Stepped` lists. -/
theorem stepped (c : DashboardSystem) (event : DashboardEvent) : Stepped c event (c.step event) := by
  cases event with
  | refresh =>
    cases busy : c.dashboard.gate.busy
    · rw [step_refresh_free busy]
      exact .begins busy
    · rw [step_refresh_busy busy]
      exact .queues busy
  | advance move =>
    cases waiting : c.waiting with
    | none =>
      rw [(step_idle waiting move).1]
      exact .unexpected waiting
    | some run =>
      rw [step_advance waiting]
      exact .resumes waiting (resumed c run move)
  | cancel =>
    cases waiting : c.waiting with
    | none =>
      rw [(step_idle waiting (.keep default)).2]
      exact .cancelsNothing waiting
    | some run =>
      rw [step_cancel waiting]
      exact .cancels waiting
  | setPaused paused => exact .pauses paused
  | setProject project =>
    by_cases same : c.dashboard.project = project
    · rw [step_setProject_same same]
      exact .stays same
    · rw [step_setProject_other same]
      exact .switches same

/-! ### The log of fetched payloads -/

/-- The health payloads the waiting run gathered were answered for the project it captured,
and are logged so. -/
def Logged (c : DashboardSystem) : Prop :=
  ∀ run, c.waiting = some run → ∀ payloads, run.awaiting.payloads? = some payloads →
    (run.project, payloads) ∈ c.fetched

theorem logged_start (prefs : Prefs.PrefsSession) : (start prefs).Logged := by
  intro run waiting
  cases waiting

theorem logged_beginRun (c : DashboardSystem) (permit : Refresh.Permit) : (c.beginRun permit).Logged := by
  intro run waiting payloads gathered
  simp only [beginRun, Option.some.injEq] at waiting
  subst waiting
  cases gathered

theorem logged_endRun (c : DashboardSystem) (permit : Refresh.Permit) (result : Except String Unit) :
    (c.endRun permit result).2.Logged := by
  rw [endRun_eq]
  split
  · exact logged_beginRun _ permit
  · intro run waiting
    cases waiting

theorem Logged.step {c : DashboardSystem} (logged : c.Logged) (event : DashboardEvent) :
    (c.step event).2.Logged := by
  have step := stepped c event
  generalize c.step event = result at step ⊢
  cases step with
  | queues | unexpected | cancelsNothing | pauses | stays | switches => exact logged
  | begins => exact logged_beginRun _ _
  | cancels =>
    intro run' waiting'
    cases waiting'
  | resumes waiting resumed =>
    cases resumed with
    | unexpected => exact logged
    | waits _ keeps grows gathered =>
      -- the run goes on: what it has gathered now was logged by this step or before
      intro run' waiting' payloads gathered'
      simp only [Option.some.injEq] at waiting'
      subst waiting'
      rcases gathered payloads gathered' with fetched | earlier
      · exact fetched
      · exact grows _ (logged _ waiting payloads earlier)
    | checks _ gathered =>
      -- the check keeps the payloads the run had gathered
      intro run' waiting' payloads found
      simp only [Option.some.injEq] at waiting'
      subst waiting'
      simp only [RefreshRun.Awaiting.payloads?, Option.some.injEq] at found
      exact found ▸ logged _ waiting _ gathered
    | fails | discards | publishes => exact logged_endRun _ _ _

theorem Reachable.logged {c : DashboardSystem} (reachable : c.Reachable) : c.Logged := by
  induction reachable with
  | start prefs => exact logged_start prefs
  | step _ event logged => exact logged.step event

/-! ### What one step publishes -/

/-- The published overview is the overview of the published payloads. -/
theorem publish_overview (d : Dashboard) (stats usage session rawEvents : Json)
    (config : Option Settings.ConfigPayload) (sync : Option Sync.StatusReport) (pairing : Option Json)
    (now : Time.Instant) :
    (d.publish stats usage session rawEvents config sync pairing now).cache.overview =
      some (overviewOf stats usage rawEvents sync now) := by
  rw [publish_cache_keep]
  unfold Cache.keep
  cases sync <;> cases config.isSome <;> rfl

/-- A step after a waiting run's check that keeps what the run brought: the run ends well, and the
published fields become the health payloads it fetched for the project it captured, the overview
computed from them at that step, and the rest it brought. -/
def PublishesFetched (c : DashboardSystem) (event : DashboardEvent) : Prop :=
  ∃ run now payloads config sync pairing, c.waiting = some run ∧ event = .advance (.keep now) ∧
    run.awaiting = .publishing payloads config sync pairing ∧
    (∃ followUp, (c.step event).1 = .ran (.ok ()) followUp) ∧ (run.project, payloads) ∈ c.fetched ∧
    (c.step event).2.dashboard.cache.overview =
      some (overviewOf (payloads.getD 0 .null) (payloads.getD 1 .null) (payloads.getD 3 .null) sync now) ∧
    (c.step event).2.dashboard.cache.published =
      (c.dashboard.publish (payloads.getD 0 .null) (payloads.getD 1 .null) (payloads.getD 2 .null)
        (payloads.getD 3 .null) config sync pairing now).cache.published

/-- Only the step after a run's check changes the published fields, to what the run fetched. -/
theorem published_changes_only_after_check {c : DashboardSystem} (logged : c.Logged)
    (event : DashboardEvent)
    (changed : (c.step event).2.dashboard.cache.published ≠ c.dashboard.cache.published) :
    c.PublishesFetched event := by
  unfold PublishesFetched
  have step := stepped c event
  generalize c.step event = result at step changed ⊢
  cases step with
  | queues | begins | unexpected | cancelsNothing | stays | switches => exact absurd rfl changed
  | cancels => exact absurd (abandoned_published _) changed
  | pauses => exact absurd (withPaused_published _ _) changed
  | @resumes run move _ waiting resumed =>
    cases resumed with
    | unexpected | waits | checks => exact absurd rfl changed
    | fails e => exact absurd (endRun_published _ _ _) changed
    | discards => exact absurd (endRun_published _ _ _) changed
    | @publishes payloads config sync pairing now publishing =>
      -- the run keeps what it brought: its payloads were fetched for the project it captured
      have fetched := logged run waiting payloads (by simp [publishing, RefreshRun.Awaiting.payloads?])
      refine ⟨run, now, payloads, config, sync, pairing, waiting, rfl, publishing,
        ⟨_, endRun_reply _ _ _⟩, fetched, ?_, endRun_published _ _ _⟩
      exact (congrArg Published.overview (endRun_published _ _ _)).trans (publish_overview _ _ _ _ _ _ _ _ _)

/-- A run passes its check only at a step where the dashboard's project is the one it captured:
a run waiting past its check after a step either waited so before it, or passed its check at it
on its own project. -/
theorem checked_on_captured_project (c : DashboardSystem) (event : DashboardEvent) {run : RefreshRun}
    (waiting : (c.step event).2.waiting = some run) (checked : run.awaiting.checked = true) :
    c.waiting = some run ∨ c.dashboard.project = run.project := by
  have step := stepped c event
  generalize c.step event = result at step waiting
  cases step with
  | queues | unexpected | cancelsNothing | pauses | stays | switches => exact .inl waiting
  | begins =>
    simp only [beginRun, Option.some.injEq] at waiting
    rw [← waiting] at checked
    cases checked
  | cancels => cases waiting
  | resumes _ resumed =>
    cases resumed with
    | unexpected => exact .inl waiting
    | waits unchecked =>
      simp only [Option.some.injEq] at waiting
      rw [← waiting, unchecked] at checked
      cases checked
    | checks same =>
      simp only [Option.some.injEq] at waiting
      rw [← waiting]
      exact .inr same
    | fails | discards | publishes =>
      rw [endRun_unchecked _ _ _ waiting] at checked
      cases checked

/-! ### What the other steps change -/

theorem publishRun_reply (c : DashboardSystem) (run : RefreshRun) (payloads : List Json)
    (config : Option Settings.ConfigPayload) (sync : Option Sync.StatusReport) (pairing : Option Json)
    (now : Time.Instant) :
    (c.publishRun run payloads config sync pairing now).1 = .ran (.ok ()) c.dashboard.gate.queued :=
  endRun_reply _ _ _

/-- A step that ends a run with an error changes only where the cycle stands and the error,
and leaves the feed as it was. -/
theorem failed_run_changes_state_only {c : DashboardSystem} (event : DashboardEvent) {e : String}
    {followUp : Bool} (failed : (c.step event).1 = .ran (.error e) followUp) :
    (c.step event).2.dashboard.cache =
        { c.dashboard.cache with state := (c.step event).2.dashboard.cache.state, lastError := some e } ∧
      (c.step event).2.feed = c.feed := by
  have step := stepped c event
  generalize c.step event = result at step failed ⊢
  cases step with
  | queues | begins | unexpected | cancels | cancelsNothing | pauses | stays | switches =>
    cases failed
  | resumes waiting resumed =>
    cases resumed with
    | unexpected | waits | checks => cases failed
    | fails e' =>
      rw [endRun_reply] at failed
      cases failed
      exact ⟨endRun_error_cache _ _ _, endRun_feed _ _ _⟩
    | discards =>
      rw [endRun_reply] at failed
      cases failed
    | publishes =>
      rw [publishRun_reply] at failed
      cases failed

/-- A move after which the run still goes on leaves the dashboard as it was. -/
theorem going_run_keeps_dashboard {c : DashboardSystem} {move : RefreshRun.Move}
    (goesOn : (c.step (.advance move)).1 = .waiting) : (c.step (.advance move)).2.dashboard = c.dashboard := by
  have step := stepped c (.advance move)
  generalize c.step (.advance move) = result at step goesOn ⊢
  cases step with
  | unexpected => rfl
  | resumes waiting resumed =>
    cases resumed with
    | unexpected | waits | checks => rfl
    | fails | discards =>
      rw [endRun_reply] at goesOn
      cases goesOn
    | publishes =>
      rw [publishRun_reply] at goesOn
      cases goesOn

/-- A run beginning marks the dashboard refreshing and changes nothing else of the cache. -/
theorem refresh_changes_state_only (c : DashboardSystem) :
    (c.step .refresh).2.dashboard.cache =
      { c.dashboard.cache with state := (c.step .refresh).2.dashboard.cache.state } := by
  cases busy : c.dashboard.gate.busy
  · rw [step_refresh_free busy]
    rfl
  · rw [step_refresh_busy busy]

/-- Every step but a project switch keeps the feed's epoch and every item it holds. -/
theorem step_keeps_feed {c : DashboardSystem} {event : DashboardEvent}
    (noSwitch : ∀ project, event ≠ .setProject project) : c.feed.Keeps (c.step event).2.feed := by
  have step := stepped c event
  generalize c.step event = result at step ⊢
  cases step with
  | queues | begins | unexpected | cancels | cancelsNothing | pauses | stays =>
    exact Feed.FeedStore.Keeps.refl _
  | @switches project _ => exact absurd rfl (noSwitch project)
  | resumes waiting resumed =>
    cases resumed with
    | unexpected => exact Feed.FeedStore.Keeps.refl _
    | waits _ keeps | checks _ _ keeps => exact keeps
    | fails e =>
      rw [endRun_feed]
      exact Feed.FeedStore.Keeps.refl _
    | discards _ keeps =>
      rw [endRun_feed]
      exact keeps
    | publishes =>
      rw [publishRun, endRun_feed]
      exact Feed.FeedStore.Keeps.refl _

/-- In every interleaving of refreshes with project switches: the published fields change only
at the step after a run's check, all at once, to the health payloads the run fetched for the
project it captured and the overview computed from them; a run passes its check only at a step
where the dashboard's project is the one it captured; a refresh that begins a run marks it
refreshing and changes nothing else of the cache; a move after which the run still goes on
leaves the dashboard as it was; a run that fails changes only where the cycle stands and the
error, and leaves the feed; and no step but a project switch changes the feed's project or
generation. -/
theorem refresh_publishes_what_it_checked {c : DashboardSystem} (reachable : c.Reachable)
    (event : DashboardEvent) :
    ((c.step event).2.dashboard.cache.published ≠ c.dashboard.cache.published → c.PublishesFetched event) ∧
      (∀ run, (c.step event).2.waiting = some run → run.awaiting.checked = true →
        c.waiting = some run ∨ c.dashboard.project = run.project) ∧
      (event = .refresh →
        (c.step event).2.dashboard.cache =
          { c.dashboard.cache with state := (c.step event).2.dashboard.cache.state }) ∧
      (∀ move, event = .advance move → (c.step event).1 = .waiting →
        (c.step event).2.dashboard = c.dashboard) ∧
      (∀ e followUp, (c.step event).1 = .ran (.error e) followUp →
        (c.step event).2.dashboard.cache =
            { c.dashboard.cache with state := (c.step event).2.dashboard.cache.state, lastError := some e } ∧
          (c.step event).2.feed = c.feed) ∧
      ((∀ project, event ≠ .setProject project) →
        (c.step event).2.feed.project = c.feed.project ∧
          (c.step event).2.feed.generation = c.feed.generation) := by
  refine ⟨published_changes_only_after_check reachable.logged event,
    fun _ waiting checked => checked_on_captured_project c event waiting checked, ?_, ?_,
    fun _ _ failed => failed_run_changes_state_only event failed, fun noSwitch => ?_⟩
  · rintro rfl
    exact refresh_changes_state_only c
  · rintro move rfl goesOn
    exact going_run_keeps_dashboard goesOn
  · have keeps := step_keeps_feed (c := c) noSwitch
    exact ⟨keeps.project, keeps.generation⟩

/-- A refresh whose health fetch fails: the run ends with the error, and nothing but where the
cycle stands and the error changes. -/
theorem failed_health_fetch_records_error_only :
    let c := (start default).run [.setProject "p", .refresh]
    c.Reachable ∧
      (c.step (.advance (.answer (.health (.error "down"))))).1 = .ran (.error "loading health data: down") false ∧
      (c.step (.advance (.answer (.health (.error "down"))))).2.dashboard.cache =
        { c.dashboard.cache with state := .error, lastError := some "loading health data: down" } := by
  intro c
  have reachable : c.Reachable := (Reachable.start default).run _
  have failed := (refresh_publishes_what_it_checked reachable
    (.advance (.answer (.health (.error "down"))))).2.2.2.2.1 "loading health data: down" false rfl
  exact ⟨reachable, rfl, failed.1⟩

/-- A project switch between a run's check and its next step: the run, which captured `a` and
fetched its health data for `a`, keeps that data while the dashboard shows `b`. -/
theorem switch_after_check_publishes_other_project :
    let c := (start default).run
      [.setProject "a", .refresh, .advance (.answer (.health (.ok [.string "a"]))),
        .advance (.answer (.config (.error "down"))), .advance (.answer (.sync (.error "down"))),
        .advance (.answer (.feed (.ok (default, default)))), .setProject "b"]
    c.Reachable ∧ (∃ run, c.waiting = some run ∧ run.project = "a") ∧ c.dashboard.project = "b" ∧
      c.fetched = [("a", [.string "a"])] ∧
      (c.step (.advance (.keep default))).2.dashboard.cache.stats = .string "a" ∧
      (c.step (.advance (.keep default))).2.dashboard.project = "b" := by
  intro c
  exact ⟨(Reachable.start default).run _, ⟨_, rfl, rfl⟩, rfl, rfl, rfl, rfl⟩

end DashboardSystem

end MemoryDashboard
