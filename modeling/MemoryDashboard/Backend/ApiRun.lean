import MemoryDashboard.Backend.Scripted
import MemoryDashboard.Api.Router
/-!
# Driving the API

A run sends requests to the dashboard's API, built as the viewer builds it, against a scripted
backend; between requests the script may change. The dashboard starts with the configured
project selected and its preferences in memory or in a file; initial preferences are then set
on the store. A process that records metrics starts with its recorder installed, and its
router serves them.

Each request answers its status, its body (as JSON when it reads as JSON, else as text) and the
calls it made.
-/

namespace MemoryDashboard

namespace Scripted

/-- A step of an API run. -/
inductive ApiStep where
  | request (r : Api.Request)
  | update (changes : Json.Members)
  deriving Inhabited

/-- An API run: the world and the router's state. -/
structure ApiRun where
  world : World
  app : Api.AppState := {}
  deriving Inhabited

/-- A response body as JSON when it reads as JSON, else as text. -/
def bodyJson (body : String) : Json :=
  match Json.read body with
  | .ok j => j
  | .error _ => .str body

namespace ApiRun

/-- A run with the given project and preferences, kept in memory or in a file on a disk, and
the recorder of metrics when the process has one. -/
def start (script : Script) (now : Time.Instant) (disk : Storage.Disk) (prefsPath : Option String)
    (project : String) (prefs : List (String × String)) (recorder : Option Metrics.Registry) :
    ApiRun :=
  let dashboard : Dashboard := { prefs := Prefs.PrefsSession.start disk prefsPath }
  let world : World := { dashboard, script, subject := .dashboard, now, metrics := recorder.getD {} }
  let (_, world) := Sim.run (Dashboard.setProject project : Sim Bool) world
  let dashboard := prefs.foldl (fun d (k, v) => { d with prefs := d.prefs.setValue k v }) world.dashboard
  { world := { world with dashboard }, app := { metrics := recorder.isSome } }

/-- Takes one step. -/
def step (r : ApiRun) : ApiStep → Json × ApiRun
  | .update changes =>
    (Json.obj [("backend", .str "updated")],
      { r with world := { r.world with script := r.world.script.update changes } })
  | .request req =>
    let x : Sim (Api.Response × Api.AppState) := Api.handle (backend hookDepth) r.world.now r.app req
    let (result, calls, world) := Scripted.step x r.world
    let callsJson := Json.array (calls.map Json.str)
    match result with
    | some (response, app) =>
      (Json.obj [("status", .nat response.status), ("body", bodyJson response.body), ("calls", callsJson)],
        { world, app })
    | none => (Json.obj [("status", .null), ("body", .null), ("calls", callsJson)], { r with world })

/-- Takes steps in order: their answers and the run after them. -/
def run (r : ApiRun) : List ApiStep → List Json × ApiRun
  | [] => ([], r)
  | s :: rest =>
    let (j, r) := r.step s
    let (js, r) := r.run rest
    (j :: js, r)

end ApiRun

end Scripted

end MemoryDashboard
