import MemoryDashboard.Json.Decode
import MemoryDashboard.Text.Label
/-!
# Health signals

The measurements the health score is computed from: the raw-event backlog and its batch errors,
the flush success and dropped-event rates, the sync daemon's state, whether sync is enabled,
how many peers there are, how old the last sync and the last memory pack are, and the share of
tokens saved by memory reuse.

The daemon state is one of five states the score tells apart, or any other state carried by
its name. A missing or empty name is the state `unknown`.

A signal is read from an object whose members replace the defaults of a quiet system (no
backlog, full flush success, nothing dropped, state `unknown`, nothing else known).
-/

namespace MemoryDashboard

namespace Health

/-- The state a sync daemon reports. -/
inductive DaemonState where
  | disabled
  | stopped
  | error
  | degraded
  | offlinePeers
  /-- Any other state, by its name. -/
  | other (name : String)
  deriving DecidableEq, Inhabited, Repr

namespace DaemonState

/-- The state of a reported name: the five known names, case-sensitive, and `unknown` for the
empty name. -/
def ofName (name : String) : DaemonState :=
  match name with
  | "disabled" => .disabled
  | "stopped" => .stopped
  | "error" => .error
  | "degraded" => .degraded
  | "offline-peers" => .offlinePeers
  | "" => .other "unknown"
  | _ => .other name

/-- The state of an optional name; a missing name is `unknown`. -/
def ofName? (name : Option String) : DaemonState :=
  (name.map ofName).getD (.other "unknown")

/-- The name of a state. -/
def name : DaemonState → String
  | .disabled => "disabled"
  | .stopped => "stopped"
  | .error => "error"
  | .degraded => "degraded"
  | .offlinePeers => "offline-peers"
  | .other n => n

/-- The label shown for a state: `Offline peers`, or the name with a capital first letter. -/
def label : DaemonState → String
  | .offlinePeers => "Offline peers"
  | s => Text.titleCase s.name

/-- Reads a state from a string or `null`. -/
def decoder : Json.Decoder DaemonState := fun node =>
  (Json.Decode.option Json.Decode.string node).map ofName?

end DaemonState

/-- The backlog from which raw events count as piling up. -/
def backlogPending : Nat := 200

/-- The backlog from which raw events count as a high backlog. -/
def highBacklogPending : Nat := 1000

/-- Seconds after which sync looks stale. -/
def syncStaleSecs : Int := 7200

/-- Seconds after which sync is not recent. -/
def syncNotRecentSecs : Int := 1800

/-- Seconds after which memory pack activity is old. -/
def packOldSecs : Int := 86400

/-- The input of the health score. -/
structure HealthSignal where
  rawPending : Nat := 0
  erroredBatches : Nat := 0
  flushSuccessRate : Float := 1.0
  droppedRate : Float := 0.0
  syncState : DaemonState := .other "unknown"
  /-- The explicit `enabled` flag of the sync status, when it was reported. -/
  syncEnabled : Option Bool := none
  peerCount : Nat := 0
  syncAgeSecs : Option Int := none
  reductionPercent : Option Float := none
  packAgeSecs : Option Int := none
  deriving Inhabited

namespace HealthSignal

/-- Sync is off: the daemon says so, or the status says it is not enabled. -/
def syncDisabled (s : HealthSignal) : Bool :=
  s.syncState == .disabled || s.syncEnabled == some false

/-- Sync is on but has no peers. -/
def syncNoPeers (s : HealthSignal) : Bool := !s.syncDisabled && s.peerCount == 0

/-- Sync is on and has peers; only then does sync count in the score. -/
def syncActive (s : HealthSignal) : Bool := !s.syncDisabled && s.peerCount > 0

/-- The daemon reports that all peers are offline. -/
def syncOfflinePeers (s : HealthSignal) : Bool := s.syncState == .offlinePeers

/-- The last sync is older than the stale limit. -/
def syncLooksStale (s : HealthSignal) : Bool := s.syncAgeSecs.any (· > syncStaleSecs)

/-- Raw events are piling up. -/
def hasBacklog (s : HealthSignal) : Bool := s.rawPending ≥ backlogPending

/-- The signal as the dashboard writes it, the state by its name. -/
def toJson (s : HealthSignal) : Json :=
  Json.obj
    [ ("raw_pending", .nat s.rawPending), ("errored_batches", .nat s.erroredBatches),
      ("flush_success_rate", .float s.flushSuccessRate), ("dropped_rate", .float s.droppedRate),
      ("sync_state", .str s.syncState.name), ("sync_enabled", Json.opt .bool s.syncEnabled),
      ("peer_count", .nat s.peerCount), ("sync_age_secs", Json.opt Json.int s.syncAgeSecs),
      ("reduction_percent", Json.opt Json.float s.reductionPercent),
      ("pack_age_secs", Json.opt Json.int s.packAgeSecs) ]

open Json.Decode in
/-- The fields of a signal; each may be left out. -/
def rules : List FieldRule :=
  [ .of "raw_pending" u64, .of "errored_batches" u64, .of "flush_success_rate" f64,
    .of "dropped_rate" f64, .of "sync_state" DaemonState.decoder,
    .of "sync_enabled" (option bool), .of "peer_count" usize, .of "sync_age_secs" (option i64),
    .of "reduction_percent" (option f64), .of "pack_age_secs" (option i64) ]

open Json.Decode in
/-- Reads a signal: the members given replace the defaults; unknown members are ignored. -/
def decoder : Json.Decoder HealthSignal := fun node => do
  let fs ← record "HealthSignal" rules false node
  let d : HealthSignal := {}
  return {
    rawPending := ← fs.read "raw_pending" u64 d.rawPending
    erroredBatches := ← fs.read "errored_batches" u64 d.erroredBatches
    flushSuccessRate := ← fs.read "flush_success_rate" f64 d.flushSuccessRate
    droppedRate := ← fs.read "dropped_rate" f64 d.droppedRate
    syncState := ← fs.read "sync_state" DaemonState.decoder d.syncState
    syncEnabled := ← fs.read "sync_enabled" (option bool) d.syncEnabled
    peerCount := ← fs.read "peer_count" usize d.peerCount
    syncAgeSecs := ← fs.read "sync_age_secs" (option i64) d.syncAgeSecs
    reductionPercent := ← fs.read "reduction_percent" (option f64) d.reductionPercent
    packAgeSecs := ← fs.read "pack_age_secs" (option i64) d.packAgeSecs }

end HealthSignal

end Health

end MemoryDashboard
