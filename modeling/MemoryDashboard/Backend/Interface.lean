import MemoryDashboard.Feed.Page
import MemoryDashboard.Sync.Status
import MemoryDashboard.Settings.View
/-!
# The backend the dashboard reads

The dashboard learns everything from a memory backend: pages of observations and of session
summaries, statistics, usage, the current session, the raw-event queue, the sync daemon's
status, the pairing payload and the configuration; it also saves the configuration and asks
for a sync pass. Every call answers a value or fails with an error text.

The dashboard is written against any backend in any monad. A call may also never answer: the
monad then raises `Waiting`, and whatever waits on that call waits for ever.

Several calls are often started together and awaited as one (`join2`, `joinAll`). They start
in order; the first failure fails the whole and the calls after it are not started. A call that
does not answer does not stop the later ones from starting, but the whole then never answers
either, unless a later call fails.
-/

namespace MemoryDashboard

/-- The signal that a call never answers. -/
structure Waiting where
  deriving Inhabited

/-- The calls the dashboard makes to its backend. -/
structure Backend (m : Type → Type) where
  /-- A page of observations of a project: its size and offset. -/
  memoriesPage : String → Nat → Nat → m (Except String Feed.Page)
  /-- A page of session summaries of a project: its size and offset. -/
  summariesPage : String → Nat → Nat → m (Except String Feed.Page)
  stats : m (Except String Json)
  usage : String → m (Except String Json)
  session : String → m (Except String Json)
  rawEvents : String → m (Except String Json)
  /-- The sync status, with diagnostics when asked for. -/
  syncStatus : Bool → m (Except String Sync.StatusReport)
  pairing : m (Except String Json)
  config : m (Except String Settings.ConfigPayload)
  saveConfig : Json → m (Except String Unit)
  /-- Asks for a sync pass with one peer address, or with every peer. -/
  triggerSync : Option String → m (Except String Unit)
  projects : m (Except String (List String))

namespace Backend

variable {m : Type → Type} [Monad m] [MonadExceptOf Waiting m]

/-- Runs a call, giving none when it never answers. -/
def attempt {α : Type} (call : m α) : m (Option α) :=
  tryCatchThe Waiting (some <$> call) (fun _ => pure none)

/-- Awaits two calls as one. -/
def join2 {α β : Type} (first : m (Except String α)) (second : m (Except String β)) :
    m (Except String (α × β)) := do
  match ← attempt first with
  | some (.error e) => return .error e
  | a =>
    match a, ← attempt second with
    | _, some (.error e) => return .error e
    | some (.ok x), some (.ok y) => return .ok (x, y)
    | _, _ => throwThe Waiting {}

/-- Starts calls in order and collects their answers; `waiting` says whether an earlier call
never answered. -/
def joinFrom {α : Type} (waiting : Bool) (acc : List α) :
    List (m (Except String α)) → m (Except String (List α))
  | [] => if waiting then throwThe Waiting {} else return .ok acc.reverse
  | call :: rest => do
    match ← attempt call with
    | some (.error e) => return .error e
    | some (.ok a) => joinFrom waiting (a :: acc) rest
    | none => joinFrom true acc rest

/-- Awaits calls as one. -/
def joinAll {α : Type} (calls : List (m (Except String α))) : m (Except String (List α)) :=
  joinFrom false [] calls

end Backend

end MemoryDashboard
