import MemoryDashboard.Backend.Scripted
import MemoryDashboard.Dashboard.Polling
/-!
# Driving the dashboard

A run drives the dashboard through steps against a scripted backend, on a clock that moves only
when a step moves it. Besides the dashboard's own operations, a run can start the polling loop,
move the clock, pause or resume polling, and stop the loop.

## The polling loop

The loop ticks every `interval` milliseconds, the first tick at once. At a tick it refreshes,
unless polling is paused, in which case it marks the dashboard paused. A tick that comes more
than 5 ms late is followed by the next tick of the unchanged schedule after the current time;
ticks in between are skipped. Moving the clock past several ticks thus gives one.

Pausing or resuming reaches the loop as a message. The loop marks the dashboard paused or not;
on resuming it also refreshes at once and starts the schedule again from the current time.
Stopping ends the loop. A refresh that never ends leaves the loop waiting for ever: it then
sees neither ticks nor messages.

A refresh given up while it waits frees the gate, drops its follow-up and moves a dashboard
still marked refreshing to idle or paused (`Dashboard.abandonRefresh`).
-/

namespace MemoryDashboard

namespace Scripted

/-- The polling loop. -/
structure Poller where
  interval : Nat
  /-- When the next tick is due. -/
  nextTick : Nat
  /-- The pause channel. -/
  channel : Polling.PauseChannel
  /-- Whether the loop waits on a refresh that never ends. -/
  stuck : Bool := false
  deriving DecidableEq, Inhabited, Repr

/-- A step of a dashboard run. -/
inductive DashboardStep where
  | refresh
  /-- Refreshes, giving the refresh up if it waits. -/
  | refreshCancel
  | setProject (project : String)
  | setPaused (paused : Bool)
  | loadMore
  | triggerSync (address : Option String)
  | saveSettings (form : Settings.SettingsForm)
  | projects
  | snapshot
  | health
  | settings
  | feedKeys
  | pollStart (interval : Nat) (paused : Bool)
  | advance (ms : Nat)
  | pollPause (paused : Bool)
  | pollStop
  deriving Inhabited

/-- A dashboard run: the world, the clock in milliseconds, and the polling loop if it runs. -/
structure DashboardRun where
  world : World
  clock : Nat := 0
  poller : Option Poller := none
  deriving Inhabited

/-- The answer to a refresh. -/
def refreshJson : Except String RefreshOutcome → Json
  | .ok .completed => .str "completed"
  | .ok .queued => .str "queued"
  | .error e => Json.obj [("error", .str e)]

/-- The answer to a request that fails or answers nothing. -/
def doneJson : Except String Unit → Json
  | .ok () => .null
  | .error e => Json.obj [("error", .str e)]

/-- One cycle of the loop: a refresh whose failure is ignored; false when it never ends. -/
def cycle (api : Backend Sim) (now : Time.Instant) : Sim Bool :=
  tryCatchThe Waiting (do let _ ← Dashboard.refresh api now; return true) (fun _ => return false)

/-- Carries out what a branch of the loop decided, in order: the poller after it, or none once
the loop ends. A refresh that never ends leaves the loop waiting for ever. -/
def perform (api : Backend Sim) (now : Time.Instant) (clock : Nat) :
    List Polling.LoopAction → Poller → Sim (Option Poller)
  | [], p => return some p
  | .setPaused paused :: rest, p => do
    (Dashboard.setPaused paused : Sim Unit)
    perform api now clock rest p
  | .refresh :: rest, p => do
    if ← cycle api now then perform api now clock rest p else return some { p with stuck := true }
  | .resetInterval :: rest, p => perform api now clock rest { p with nextTick := clock + max p.interval 1 }
  | .stop :: _, _ => return none

/-- A tick of the loop at `clock`: the tick branch, with the next tick on the unchanged
schedule. -/
def tick (api : Backend Sim) (now : Time.Instant) (clock : Nat) (p : Poller) : Sim (Option Poller) :=
  let period := max p.interval 1
  let next :=
    if clock ≤ p.nextTick + 5 then p.nextTick + period
    else clock + period - (clock - p.nextTick) % period
  perform api now clock (Polling.onTick p.channel.value) { p with nextTick := next }

/-- The loop wakes on its channel at `clock`: the change branch, when a change is ready. -/
def wake (api : Backend Sim) (now : Time.Instant) (clock : Nat) (p : Poller) : Sim (Option Poller) :=
  match p.channel.changed? with
  | some (seen, channel) => perform api now clock (Polling.onChange seen) { p with channel }
  | none => return some p

namespace DashboardRun

/-- A run with the given project and preferences kept in memory. -/
def start (script : Script) (now : Time.Instant) (project : String) (prefs : List (String × String)) :
    DashboardRun :=
  let dashboard : Dashboard := { prefs := Prefs.PrefsSession.start { root := "<dir>" } none }
  let world : World := { dashboard, script, subject := .dashboard, now }
  let (_, world) := Sim.run (Dashboard.setProject project : Sim Bool) world
  let dashboard := prefs.foldl (fun d (k, v) => { d with prefs := d.prefs.setValue k v }) world.dashboard
  { world := { world with dashboard } }

/-- What a step of the dashboard itself does. -/
def action (api : Backend Sim) (now : Time.Instant) : DashboardStep → Sim Json
  | .refresh => return refreshJson (← Dashboard.refresh api now)
  | .refreshCancel =>
    tryCatchThe Waiting (do return refreshJson (← Dashboard.refresh api now)) fun _ => do
      (Dashboard.abandonRefresh : Sim Unit)
      return .str "cancelled"
  | .setProject p => return .bool (← (Dashboard.setProject p : Sim Bool))
  | .setPaused b => do
    (Dashboard.setPaused b : Sim Unit)
    return .null
  | .loadMore => return .str (← Dashboard.loadMore api).text
  | .triggerSync address => return doneJson (← Dashboard.triggerSync api now address)
  | .saveSettings form => return doneJson (← Dashboard.saveSettings api form)
  | .projects => do
    match ← api.projects with
    | .ok ps => return .array (ps.map Json.str)
    | .error e => return Json.obj [("error", .str e)]
  | .snapshot => return (← (Dashboard.currentSnapshot : Sim Snapshot)).toJson
  | .health => return Json.opt Health.HealthOverview.toJson (← getThe Dashboard).cache.overview
  | .settings => return Json.opt Settings.SettingsView.toJson (← getThe Dashboard).settingsView
  | .feedKeys => return .array ((← getThe Feed.FeedStore).items.map fun i => .str i.key)
  | _ => return .null

/-- Runs a loop step in the world: the poller after it. -/
def loopStep (api : Backend Sim) (now : Time.Instant) (clock : Nat) :
    DashboardStep → Poller → Sim (Option Poller)
  | .advance _, p =>
    if !p.stuck && p.nextTick ≤ clock then tick api now clock p else return some p
  | .pollPause paused, p =>
    let p := { p with channel := p.channel.send paused }
    if p.stuck then return some p else wake api now clock p
  | .pollStop, p =>
    let p := { p with channel := p.channel.close }
    if p.stuck then return some p else wake api now clock p
  | _, p => return some p

/-- Takes one step: its answer and the calls it made. -/
def step (r : DashboardRun) (s : DashboardStep) : Except String ((Json × List String) × DashboardRun) :=
  let api := backend hookDepth
  let now := r.world.now
  match s, r.poller with
  | .pollStart interval paused, _ =>
    let p : Poller := { interval, nextTick := r.clock, channel := { value := paused } }
    let (p, calls, world) := Scripted.step (tick api now r.clock p) r.world
    .ok ((.null, calls), { r with world, poller := p.getD none })
  | .advance ms, none => .ok ((.null, []), { r with clock := r.clock + ms })
  | .advance ms, some p =>
    let clock := r.clock + ms
    let (p, calls, world) := Scripted.step (loopStep api now clock s p) r.world
    .ok ((.null, calls), { world, clock, poller := p.getD none })
  | .pollPause _, none => .error "polling not started"
  | .pollStop, none => .error "polling not started"
  | .pollPause _, some p =>
    let (p, calls, world) := Scripted.step (loopStep api now r.clock s p) r.world
    .ok ((.null, calls), { r with world, poller := p.getD none })
  | .pollStop, some p =>
    let (p, calls, world) := Scripted.step (loopStep api now r.clock s p) r.world
    .ok ((.str "stopped", calls), { r with world, poller := p.getD none })
  | _, _ =>
    let (result, calls, world) := Scripted.step (action api now s) r.world
    .ok ((result.getD (.str "pending"), calls), { r with world })

/-- The entry of a step as a run reports it. -/
def entryJson (r : DashboardRun) (result : Json) (calls : List String) : Json :=
  let d := r.world.dashboard
  Json.obj
    [ ("result", result), ("calls", .array (calls.map Json.str)), ("state", .str d.cache.state.name),
      ("paused", .bool d.cache.paused), ("project", .str d.project) ]

/-- Takes steps in order. -/
def run (r : DashboardRun) : List DashboardStep → Except String (List Json)
  | [] => .ok []
  | s :: rest => do
    let ((result, calls), r) ← r.step s
    return r.entryJson result calls :: (← r.run rest)

end DashboardRun

end Scripted

end MemoryDashboard
