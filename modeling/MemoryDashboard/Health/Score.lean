import MemoryDashboard.Health.Signal
/-!
# The health score

The risk score is a sum of findings. Each rule of the signal either finds nothing or finds one
risk, worth some points and named by a phrase; the phrases are kept in rule order and explain
the status. Only the rules of one tier exclude each other (a high backlog is not also a growing
one), so the score is the sum of the points of all findings.

A score from 60 needs attention, from 25 the system is degraded, below that it is healthy.
-/

namespace MemoryDashboard

namespace Health

/-- How the system is doing. -/
inductive HealthStatus where
  | healthy
  | degraded
  | attention
  deriving DecidableEq, Inhabited, Repr

namespace HealthStatus

/-- The name of a status, which is also its label. -/
def label : HealthStatus → String
  | .healthy => "Healthy"
  | .degraded => "Degraded"
  | .attention => "Attention"

/-- The style class of a status. -/
def cssClass : HealthStatus → String
  | .healthy => "status-healthy"
  | .degraded => "status-degraded"
  | .attention => "status-attention"

end HealthStatus

/-- The score from which the system needs attention. -/
def attentionThreshold : Nat := 60

/-- The score from which the system is degraded. -/
def degradedThreshold : Nat := 25

/-- The status of a score. -/
def statusFor (score : Nat) : HealthStatus :=
  if score ≥ attentionThreshold then .attention
  else if score ≥ degradedThreshold then .degraded
  else .healthy

/-- One risk the score found: its points and the phrase naming it. -/
structure Finding where
  points : Nat
  driver : String
  deriving DecidableEq, Inhabited, Repr

/-- A finding when the condition holds. -/
def findingIf (condition : Bool) (points : Nat) (driver : String) : List Finding :=
  if condition then [⟨points, driver⟩] else []

namespace HealthSignal

/-- The backlog tier: a high backlog, else a growing one. -/
def backlogFindings (s : HealthSignal) : List Finding :=
  if s.rawPending ≥ highBacklogPending then [⟨40, "high raw-event backlog"⟩]
  else findingIf (s.rawPending ≥ backlogPending) 24 "growing raw-event backlog"

/-- Batch errors count only while there is a backlog; five or more weigh more. -/
def batchFindings (s : HealthSignal) : List Finding :=
  findingIf (s.erroredBatches > 0 && s.hasBacklog) (if s.erroredBatches ≥ 5 then 10 else 6)
    "batch errors during backlog pressure"

/-- Flushes succeed less than 95% of the time. -/
def flushFindings (s : HealthSignal) : List Finding :=
  findingIf (s.flushSuccessRate < 0.95) 20 "lower flush success"

/-- The dropped-event tier: above 2%, else above 0.5%. -/
def droppedFindings (s : HealthSignal) : List Finding :=
  if s.droppedRate > 0.02 then [⟨24, "high dropped-event rate"⟩]
  else findingIf (s.droppedRate > 0.005) 10 "non-trivial dropped-event rate"

/-- What the daemon state says about an active sync. -/
def daemonFindings (s : HealthSignal) : List Finding :=
  match s.syncState with
  | .error => [⟨36, "sync daemon reports errors"⟩]
  | .stopped => [⟨22, "sync daemon stopped"⟩]
  | .degraded => [⟨20, "sync daemon degraded"⟩]
  | _ => []

/-- The recency tier of an active sync: offline peers (and, if stale, that too), else stale,
else not recent. -/
def recencyFindings (s : HealthSignal) : List Finding :=
  if s.syncOfflinePeers then
    ⟨4, "all peers currently offline"⟩ ::
      findingIf s.syncLooksStale 4 "offline peers and sync not recent"
  else if s.syncLooksStale then [⟨26, "sync looks stale"⟩]
  else findingIf (s.syncAgeSecs.any (· > syncNotRecentSecs)) 12 "sync not recent"

/-- Sync counts only when it is active. -/
def syncFindings (s : HealthSignal) : List Finding :=
  if s.syncActive then s.daemonFindings ++ s.recencyFindings else []

/-- Memory reuse saves less than 10% of the tokens. -/
def reductionFindings (s : HealthSignal) : List Finding :=
  findingIf (s.reductionPercent.any (· < 10.0)) 8 "low retrieval reduction"

/-- The last memory pack is more than a day old. -/
def packFindings (s : HealthSignal) : List Finding :=
  findingIf (s.packAgeSecs.any (· > packOldSecs)) 12 "memory pack activity is old"

/-- All findings, in rule order. -/
def findings (s : HealthSignal) : List Finding :=
  s.backlogFindings ++ s.batchFindings ++ s.flushFindings ++ s.droppedFindings ++
    s.syncFindings ++ s.reductionFindings ++ s.packFindings

end HealthSignal

/-- The score of a signal, its status and the phrases explaining it. -/
structure HealthReport where
  riskScore : Nat
  status : HealthStatus
  drivers : List String
  deriving DecidableEq, Inhabited, Repr

/-- The report of a list of findings. -/
def HealthReport.ofFindings (fs : List Finding) : HealthReport :=
  let total := (fs.map Finding.points).foldr (· + ·) 0
  { riskScore := total, status := statusFor total, drivers := fs.map Finding.driver }

/-- Scores a signal. -/
def score (s : HealthSignal) : HealthReport := HealthReport.ofFindings s.findings

/-- The report as the dashboard writes it. -/
def HealthReport.toJson (r : HealthReport) : Json :=
  Json.obj
    [ ("risk_score", .nat r.riskScore), ("status", .str r.status.label),
      ("drivers", .array (r.drivers.map Json.str)) ]

end Health

end MemoryDashboard
