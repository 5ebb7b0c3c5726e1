import MemoryDashboard.Proofs.Dashboard.Publication

/-! # The refresh state follows the gate and the pause flag

Four writers set where the refresh cycle stands: a run marks it refreshing when it begins,
records its result when it ends, pausing or resuming polling sets or clears the paused state,
and giving a refresh up moves a refreshing state to idle or paused. Each consults the pause flag
as it writes, so in every interleaving the state is steady (`Steady`):

* it is refreshing only while a refresh waits on the backend holding the gate;
* it is never paused while polling runs, and never idle while polling is paused;
* an error state always carries its error.

The gate is busy exactly while a refresh waits, and queues a follow-up only while busy: a run
that ends finishes its permit, so it either begins its follow-up at once or frees the gate.
-/

namespace MemoryDashboard.DashboardSystem

/-- **Steadiness.** The gate is busy exactly while a refresh waits and queues only while busy;
the state is refreshing only while a refresh waits, never paused while polling runs, never idle
while it is paused, and an error state carries its error. -/
structure Steady (c : DashboardSystem) : Prop where
  waiting_busy : c.waiting.isSome = c.dashboard.gate.busy
  queued_busy : c.dashboard.gate.queued = true → c.dashboard.gate.busy = true
  refreshing_waiting : c.dashboard.cache.state = .refreshing → c.waiting.isSome = true
  running_not_paused : c.dashboard.cache.paused = false → c.dashboard.cache.state ≠ .paused
  paused_not_idle : c.dashboard.cache.paused = true → c.dashboard.cache.state ≠ .idle
  error_reported : c.dashboard.cache.state = .error → c.dashboard.cache.lastError.isSome = true

theorem steady_start (prefs : Prefs.PrefsSession) : (start prefs).Steady where
  waiting_busy := rfl
  queued_busy := fun queued => queued
  refreshing_waiting := fun idle => nomatch idle
  running_not_paused := fun _ idle => nomatch idle
  paused_not_idle := fun running => nomatch running
  error_reported := fun idle => nomatch idle

/-- Steadiness reads only whether a refresh waits, the gate, and the state, pause flag and
error of the cycle. -/
theorem Steady.of_eq {c c' : DashboardSystem} (steady : c.Steady)
    (waiting : c'.waiting.isSome = c.waiting.isSome) (gate : c'.dashboard.gate = c.dashboard.gate)
    (state : c'.dashboard.cache.state = c.dashboard.cache.state)
    (paused : c'.dashboard.cache.paused = c.dashboard.cache.paused)
    (lastError : c'.dashboard.cache.lastError = c.dashboard.cache.lastError) : c'.Steady where
  waiting_busy := by rw [waiting, gate]; exact steady.waiting_busy
  queued_busy := by rw [gate]; exact steady.queued_busy
  refreshing_waiting := by rw [state, waiting]; exact steady.refreshing_waiting
  running_not_paused := by rw [state, paused]; exact steady.running_not_paused
  paused_not_idle := by rw [state, paused]; exact steady.paused_not_idle
  error_reported := by rw [state, lastError]; exact steady.error_reported

/-- A run that begins with the gate busy leaves the dashboard steady, whatever came before. -/
theorem steady_beginRun (c : DashboardSystem) (permit : Refresh.Permit)
    (busy : c.dashboard.gate.busy = true) : (c.beginRun permit).Steady where
  waiting_busy := busy.symm
  queued_busy := fun _ => busy
  refreshing_waiting := fun _ => rfl
  running_not_paused := fun _ refreshing => nomatch refreshing
  paused_not_idle := fun _ refreshing => nomatch refreshing
  error_reported := fun refreshing => nomatch refreshing

/-- Recording a run's end settles the state as the pause flag says, or records the error. -/
theorem recordRun_settled (d : Dashboard) (result : Except String Unit) :
    (d.recordRun result).cache.state ≠ .refreshing ∧
      ((d.recordRun result).cache.paused = false → (d.recordRun result).cache.state ≠ .paused) ∧
      ((d.recordRun result).cache.paused = true → (d.recordRun result).cache.state ≠ .idle) ∧
      ((d.recordRun result).cache.state = .error → (d.recordRun result).cache.lastError.isSome = true) := by
  rcases result with e | ⟨⟩
  · simp [recordRun_error]
  · rw [recordRun_ok]
    simp only [Cache.settled]
    cases d.cache.paused <;> simp

/-- A run that ends while holding the gate leaves the dashboard steady: it either begins its
follow-up with the gate still busy, or frees the gate with the state settled. -/
theorem steady_endRun (c : DashboardSystem) (permit : Refresh.Permit) (result : Except String Unit)
    (busy : c.dashboard.gate.busy = true) : (c.endRun permit result).2.Steady := by
  rw [endRun_eq]
  split
  · exact steady_beginRun _ permit busy
  · rename_i notQueued
    obtain ⟨settled, running, paused, reported⟩ := recordRun_settled c.dashboard result
    exact ⟨rfl, fun queued => absurd queued (by simpa using notQueued),
      fun refreshing => absurd refreshing settled, running, paused, reported⟩

section Resume

variable {c : DashboardSystem} {run : RefreshRun} (steady : c.Steady) (waiting : c.waiting = some run)
include steady waiting

theorem Steady.busy_of_waiting : c.dashboard.gate.busy = true := by
  rw [← steady.waiting_busy, waiting]
  rfl

/-- Moving the waiting run on keeps the dashboard steady, whatever the run does. -/
theorem Steady.resumed {move : RefreshRun.Move} {result : DashboardReply × DashboardSystem}
    (resumed : Resumed c run move result) : result.2.Steady := by
  cases resumed with
  | unexpected => exact steady
  -- taking the feed's pages in keeps everything steadiness reads
  | waits | checks => exact steady.of_eq (by simp [waiting]) rfl rfl rfl rfl
  | fails | discards => exact steady_endRun _ _ _ (steady.busy_of_waiting waiting)
  | publishes => exact steady_endRun _ _ _ (by simpa using steady.busy_of_waiting waiting)

end Resume

/-- Giving up the waiting refresh frees the gate and settles a refreshing state. -/
theorem Steady.cancel {c : DashboardSystem} (steady : c.Steady) :
    ({ c with dashboard := c.dashboard.abandoned, waiting := none } : DashboardSystem).Steady := by
  refine ⟨rfl, fun queued => by simp at queued, fun refreshing => ?_, fun running => ?_,
    fun paused => ?_, fun error => ?_⟩ <;>
    simp only [abandoned_state, abandoned_paused, abandoned_lastError] at *
  · split at refreshing
    · simp only [Cache.settled] at refreshing
      split at refreshing <;> cases refreshing
    · rename_i notRefreshing
      exact absurd refreshing notRefreshing
  · split
    · simp [Cache.settled, running]
    · exact steady.running_not_paused running
  · split
    · simp [Cache.settled, paused]
    · exact steady.paused_not_idle paused
  · split at error
    · simp only [Cache.settled] at error
      split at error <;> cases error
    · exact steady.error_reported error

/-- Pausing or resuming polling keeps the dashboard steady. -/
theorem Steady.setPaused {c : DashboardSystem} (steady : c.Steady) (paused : Bool) :
    ({ c with dashboard := c.dashboard.withPaused paused } : DashboardSystem).Steady := by
  refine ⟨steady.waiting_busy, steady.queued_busy, fun refreshing => ?_, fun running => ?_,
    fun pausedNow => ?_, fun error => ?_⟩ <;>
    simp only [withPaused_state, withPaused_paused, withPaused_lastError] at *
  · cases paused
    · simp only [Bool.false_eq_true, ↓reduceIte] at refreshing
      split at refreshing
      · cases refreshing
      · exact steady.refreshing_waiting refreshing
    · cases refreshing
  · subst running
    simp only [Bool.false_eq_true, ↓reduceIte]
    split
    · exact nofun
    · assumption
  · simp [pausedNow]
  · cases paused
    · simp only [Bool.false_eq_true, ↓reduceIte] at error
      split at error
      · cases error
      · exact steady.error_reported error
    · cases error

/-- Every step keeps the dashboard steady. -/
theorem Steady.step {c : DashboardSystem} (steady : c.Steady) (event : DashboardEvent) :
    (c.step event).2.Steady := by
  have step := stepped c event
  generalize c.step event = result at step ⊢
  cases step with
  | begins => exact steady_beginRun _ _ rfl
  | queues busy =>
    exact ⟨by simpa [busy] using steady.waiting_busy, fun _ => busy, steady.refreshing_waiting,
      steady.running_not_paused, steady.paused_not_idle, steady.error_reported⟩
  | resumes waiting resumed => exact steady.resumed waiting resumed
  | unexpected | cancelsNothing | stays => exact steady
  | cancels => exact steady.cancel
  | pauses paused => exact steady.setPaused paused
  | switches => exact steady.of_eq rfl rfl rfl rfl rfl

theorem Reachable.steady {c : DashboardSystem} (reachable : c.Reachable) : c.Steady := by
  induction reachable with
  | start prefs => exact steady_start prefs
  | step _ event steady => exact steady.step event

/-- In every interleaving of refreshes (each possibly given up at any wait), pausing and
resuming, and project switches: the state is refreshing only while a refresh waits on the
backend holding the gate; it is never paused while polling runs and never idle while polling is
paused; and an error state always carries its error. -/
theorem refresh_state_follows_gate_and_pause {c : DashboardSystem} (reachable : c.Reachable) :
    (c.dashboard.cache.state = .refreshing → c.waiting.isSome = true ∧ c.dashboard.gate.busy = true) ∧
      (c.dashboard.cache.paused = false → c.dashboard.cache.state ≠ .paused) ∧
      (c.dashboard.cache.paused = true → c.dashboard.cache.state ≠ .idle) ∧
      (c.dashboard.cache.state = .error → c.dashboard.cache.lastError.isSome = true) := by
  have steady := reachable.steady
  refine ⟨fun refreshing => ?_, steady.running_not_paused, steady.paused_not_idle,
    steady.error_reported⟩
  have waiting := steady.refreshing_waiting refreshing
  exact ⟨waiting, steady.waiting_busy ▸ waiting⟩

/-- Pausing polling, then refreshing: the refresh runs while polling is paused, and the state is
refreshing, not idle. -/
theorem paused_refresh_not_idle :
    let c := (start default).run [.setPaused true, .refresh]
    c.Reachable ∧ c.dashboard.cache.paused = true ∧ c.dashboard.cache.state ≠ .idle := by
  intro c
  have reachable : c.Reachable := (Reachable.start default).run _
  exact ⟨reachable, rfl, (refresh_state_follows_gate_and_pause reachable).2.2.1 rfl⟩

end MemoryDashboard.DashboardSystem
