import MemoryDashboard.Health.Signal
/-!
# Remediation hints

What the operator can do about the health of the system. One situation is addressed, the first
that holds: a backlog (check the queue, then retry failed batches), a stopped daemon (start it),
an unhealthy active sync (restart with an immediate pass, then run the doctor), a stale active
sync (run an immediate pass). Low tag coverage adds a hint while fewer than two are given. At
most three hints are shown.
-/

namespace MemoryDashboard

namespace Health

/-- Something the operator can do; some actions also offer an immediate sync pass. -/
structure HealthAction where
  label : String
  command : String
  /-- The label of the button of an action that offers a sync pass. -/
  actionLabel : Option String := none
  triggerSync : Bool := false
  deriving DecidableEq, Inhabited, Repr

namespace HealthAction

/-- A command to run. -/
def run (label command : String) : HealthAction := { label, command }

/-- The action, also offering an immediate sync pass. -/
def withSyncNow (a : HealthAction) : HealthAction :=
  { a with actionLabel := some "Sync now", triggerSync := true }

/-- The action as the dashboard writes it, without an absent button label. -/
def toJson (a : HealthAction) : Json :=
  Json.obj ([("label", .str a.label), ("command", .str a.command)] ++
    (a.actionLabel.map fun l => ("action_label", Json.str l)).toList ++
    [("trigger_sync", .bool a.triggerSync)])

end HealthAction

/-- The most hints shown. -/
def maxActions : Nat := 3

/-- The hints for the first situation that holds. -/
def situationActions (s : HealthSignal) : List HealthAction :=
  if s.hasBacklog then
    [ .run "Pipeline needs attention. Check queue health first." "uv run codemem raw-events-status",
      .run "Then retry failed batches for impacted sessions."
        "uv run codemem raw-events-retry <opencode_session_id>" ]
  else if s.syncState == .stopped then
    [ .run "Sync daemon is stopped. Start the background service." "uv run codemem sync start" ]
  else if s.syncActive && (s.syncState == .error || s.syncState == .degraded) then
    [ (HealthAction.run "Sync is unhealthy. Restart and run one immediate pass."
        "uv run codemem sync restart").withSyncNow,
      .run "Then run doctor to see root cause details." "uv run codemem sync doctor" ]
  else if s.syncActive && s.syncLooksStale then
    [ (HealthAction.run "Sync is stale. Run one immediate sync pass."
        "uv run codemem sync once").withSyncNow ]
  else []

/-- The hints for a signal and a tag coverage between 0 and 1. -/
def recommend (s : HealthSignal) (tagsCoverage : Float) : List HealthAction :=
  let first := situationActions s
  let tagHint :=
    if tagsCoverage > 0.0 && tagsCoverage < 0.7 && first.length < 2 then
      [HealthAction.run "Tag coverage is low. Preview backfill impact."
        "uv run codemem backfill-tags --dry-run"]
    else []
  (first ++ tagHint).take maxActions

end Health

end MemoryDashboard
