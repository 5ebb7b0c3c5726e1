/-!
# Metrics

The dashboard records a few series for a metrics scraper:

| series | kind | records |
|---|---|---|
| `viewer_refresh_total` | counter | refresh runs |
| `viewer_refresh_errors_total` | counter | refresh runs that failed |
| `viewer_feed_filtered_total` | counter | low-signal observations left out of the feed |
| `viewer_load_more_errors_total` | counter | next-page loads whose fetch failed |
| `viewer_feed_items` | gauge | items the feed holds |
| `viewer_health_risk_score` | gauge | the latest weighted health risk score |

Records go to the process's recorder. A process installs it at most once; before that, records
are dropped. A series appears once something was recorded to it: a counter when it was
increased, a gauge when it was set. Every value here is a whole number.

The exposition text gives, for each series that appeared, its description, its kind and its
value, each on a line of its own, and a blank line after each series.
-/

namespace MemoryDashboard

namespace Metrics

/-- A series the dashboard records. -/
inductive Series where
  | refreshTotal
  | refreshErrorsTotal
  | feedFilteredTotal
  | loadMoreErrorsTotal
  | feedItems
  | healthRiskScore
  deriving DecidableEq, Inhabited, Repr

/-- Whether a series only grows or is set. -/
inductive Kind where
  | counter
  | gauge
  deriving DecidableEq, Inhabited, Repr

/-- The kind's name in the exposition text. -/
def Kind.name : Kind → String
  | .counter => "counter"
  | .gauge => "gauge"

namespace Series

/-- The series' name. -/
def name : Series → String
  | .refreshTotal => "viewer_refresh_total"
  | .refreshErrorsTotal => "viewer_refresh_errors_total"
  | .feedFilteredTotal => "viewer_feed_filtered_total"
  | .loadMoreErrorsTotal => "viewer_load_more_errors_total"
  | .feedItems => "viewer_feed_items"
  | .healthRiskScore => "viewer_health_risk_score"

/-- The series' description. -/
def help : Series → String
  | .refreshTotal => "Refresh cycles run"
  | .refreshErrorsTotal => "Refresh cycles that failed"
  | .feedFilteredTotal => "Low-signal observations dropped from the feed"
  | .loadMoreErrorsTotal => "Failed next-page loads"
  | .feedItems => "Items currently held by the feed"
  | .healthRiskScore => "Latest weighted health risk score"

/-- The series' kind. -/
def kind : Series → Kind
  | .feedItems | .healthRiskScore => .gauge
  | _ => .counter

end Series

/-- The recorder of a process: whether it is installed, and the series recorded so far with
their values, in the order they first appeared, each once. -/
structure Registry where
  installed : Bool := false
  values : List (Series × Nat) := []
  deriving DecidableEq, Inhabited, Repr

/-- What installing a recorder says when the process already has one. -/
def alreadyInstalled : String :=
  "prometheus: install recorder: failed to install exporter as global recorder: " ++
  "attempted to set a recorder after the metrics system was already initialized: " ++
  "attempted to set a recorder after the metrics system was already initialized"

/-- Installs the process's recorder; a process has only one. -/
def install (r : Registry) : Except String Registry :=
  if r.installed then .error alreadyInstalled else .ok { r with installed := true }

namespace Registry

/-- The value of a series, once it appeared. -/
def value? (r : Registry) (s : Series) : Option Nat := r.values.lookup s

/-- Gives a series a value, making it appear; dropped without a recorder. -/
def put (r : Registry) (s : Series) (v : Nat) : Registry :=
  if !r.installed then r
  else if (r.value? s).isSome then
    { r with values := r.values.map fun (t, w) => if t = s then (t, v) else (t, w) }
  else { r with values := r.values ++ [(s, v)] }

/-- Increases a counter. -/
def increment (r : Registry) (s : Series) (n : Nat) : Registry := r.put s ((r.value? s).getD 0 + n)

/-- The exposition text. -/
def render (r : Registry) : String :=
  String.join <| r.values.map fun (s, v) =>
    "# HELP " ++ s.name ++ " " ++ s.help ++ "\n" ++ "# TYPE " ++ s.name ++ " " ++ s.kind.name ++ "\n" ++
      s.name ++ " " ++ toString v ++ "\n\n"

end Registry

section Recording

variable {m : Type → Type} [Monad m] [MonadStateOf Registry m]

/-- Increases a counter. -/
def increment (s : Series) (n : Nat) : m Unit := modifyThe Registry (·.increment s n)

/-- Sets a gauge. -/
def setValue (s : Series) (v : Nat) : m Unit := modifyThe Registry (·.put s v)

end Recording

end Metrics

end MemoryDashboard
