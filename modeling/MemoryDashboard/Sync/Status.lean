import MemoryDashboard.Health.Signal
import MemoryDashboard.Json.Lenient
import MemoryDashboard.Decimal.Truncate
/-!
# Sync status reports

What the service reports about sync: the daemon's status (absent when the report does not
carry an object for it), the known peers and the recent sync attempts. Every field may be left
out and then takes its empty value; the status's `enabled` and `pending` and a probe's
`seconds_since_last` are kept as sent, since the service sends them in several shapes.

From a status the dashboard derives: whether sync is enabled (only an explicit boolean counts),
when it last synced and pinged (the first non-empty of two timestamps), the pending count (a
lenient number, whole part, saturated), whether sync is disabled, and the joined error line.
-/

namespace MemoryDashboard

namespace Sync

open Health (DaemonState)

/-- What a probe reports: when it last pinged and how many seconds ago it last ran. -/
structure Probe where
  lastPingAt : Option String := none
  secondsSinceLast : Json := .null
  deriving Inhabited

/-- The daemon's status. -/
structure Status where
  daemonState : DaemonState := .other "unknown"
  daemonDetail : Option String := none
  enabled : Json := .null
  pending : Json := .null
  lastSyncAt : Option String := none
  lastSyncAtUtc : Option String := none
  lastPingAt : Option String := none
  lastSyncError : Option String := none
  lastPingError : Option String := none
  /-- The peers by identifier, sorted by identifier. -/
  peers : List (String × Json) := []
  ping : Probe := {}
  sync : Probe := {}
  deriving Inhabited

/-- What the service knows about one peer. -/
structure PeerStatus where
  syncStatus : Option String := none
  pingStatus : Option String := none
  lastSyncAt : Option String := none
  lastSyncAtUtc : Option String := none
  lastPingAt : Option String := none
  lastPingAtUtc : Option String := none
  deriving Inhabited

/-- A known peer. -/
structure Peer where
  peerDeviceId : Option String := none
  name : Option String := none
  addresses : List Json := []
  status : PeerStatus := {}
  deriving Inhabited

/-- A recent sync attempt. -/
structure Attempt where
  status : Option String := none
  address : Option String := none
  startedAt : Option String := none
  startedAtUtc : Option String := none
  deriving Inhabited

/-- A sync status report. -/
structure StatusReport where
  status : Option Status := none
  peers : List Peer := []
  attempts : List Attempt := []
  deriving Inhabited

/-- A text that is present and not empty. -/
def nonEmpty (value : Option String) : Option String := value.filter (fun s => !s.isEmpty)

namespace Status

/-- Whether sync is enabled, when the status says so with a boolean. -/
def enabledFlag (s : Status) : Option Bool := s.enabled.asBool?

/-- When sync last ran: `last_sync_at`, else `last_sync_at_utc`, empty texts skipped. -/
def lastSync (s : Status) : Option String :=
  (nonEmpty s.lastSyncAt).orElse fun _ => nonEmpty s.lastSyncAtUtc

/-- When the daemon last pinged: the ping probe's time, else `last_ping_at`, empty texts
skipped. -/
def lastPing (s : Status) : Option String :=
  (nonEmpty s.ping.lastPingAt).orElse fun _ => nonEmpty s.lastPingAt

/-- The pending count: a lenient number, its whole part, saturated; zero when unreadable. -/
def pendingCount (s : Status) : Int :=
  ((Json.lenientFloat? s.pending).map Decimal.toInt64Saturating).getD 0

/-- Sync is off: the daemon says so, or the status says it is not enabled. -/
def disabled (s : Status) : Bool := s.daemonState == .disabled || s.enabledFlag == some false

/-- The non-empty errors of the last sync and the last ping, joined by ` · `. -/
def errorLine (s : Status) : Option String :=
  let parts := [s.lastSyncError, s.lastPingError].filterMap nonEmpty
  if parts.isEmpty then none else some (" · ".intercalate parts)

end Status

/-- An optional text as JSON. -/
def optText (value : Option String) : Json := Json.opt Json.str value

/-- The probe as the dashboard writes it. -/
def Probe.toJson (p : Probe) : Json :=
  Json.obj [("last_ping_at", optText p.lastPingAt), ("seconds_since_last", p.secondsSinceLast)]

/-- The status as the dashboard writes it, the state by its name. -/
def Status.toJson (s : Status) : Json :=
  Json.obj
    [ ("daemon_state", .str s.daemonState.name), ("daemon_detail", optText s.daemonDetail),
      ("enabled", s.enabled), ("pending", s.pending), ("last_sync_at", optText s.lastSyncAt),
      ("last_sync_at_utc", optText s.lastSyncAtUtc), ("last_ping_at", optText s.lastPingAt),
      ("last_sync_error", optText s.lastSyncError),
      ("last_ping_error", optText s.lastPingError), ("peers", .object s.peers),
      ("ping", s.ping.toJson), ("sync", s.sync.toJson) ]

/-- The peer status as the dashboard writes it. -/
def PeerStatus.toJson (p : PeerStatus) : Json :=
  Json.obj
    [ ("sync_status", optText p.syncStatus), ("ping_status", optText p.pingStatus),
      ("last_sync_at", optText p.lastSyncAt), ("last_sync_at_utc", optText p.lastSyncAtUtc),
      ("last_ping_at", optText p.lastPingAt), ("last_ping_at_utc", optText p.lastPingAtUtc) ]

/-- The peer as the dashboard writes it. -/
def Peer.toJson (p : Peer) : Json :=
  Json.obj
    [ ("peer_device_id", optText p.peerDeviceId), ("name", optText p.name),
      ("addresses", .array p.addresses), ("status", p.status.toJson) ]

/-- The attempt as the dashboard writes it. -/
def Attempt.toJson (a : Attempt) : Json :=
  Json.obj
    [ ("status", optText a.status), ("address", optText a.address),
      ("started_at", optText a.startedAt), ("started_at_utc", optText a.startedAtUtc) ]

/-- The report as the dashboard writes it. -/
def StatusReport.toJson (r : StatusReport) : Json :=
  Json.obj
    [ ("status", Json.opt Status.toJson r.status), ("peers", .array (r.peers.map Peer.toJson)),
      ("attempts", .array (r.attempts.map Attempt.toJson)) ]

open Json.Decode

/-- Reads a probe. -/
def Probe.decoder : Json.Decoder Probe := fun node => do
  let fs ← record "ProbeStatus"
    [.of "last_ping_at" (option string), .of "seconds_since_last" value] true node
  return {
    lastPingAt := ← fs.readOption "last_ping_at" string
    secondsSinceLast := ← fs.read "seconds_since_last" value .null }

/-- The fields of a status. -/
def Status.rules : List FieldRule :=
  [ .of "daemon_state" DaemonState.decoder, .of "daemon_detail" (option string),
    .of "enabled" value, .of "pending" value, .of "last_sync_at" (option string),
    .of "last_sync_at_utc" (option string), .of "last_ping_at" (option string),
    .of "last_sync_error" (option string), .of "last_ping_error" (option string),
    .of "peers" (stringMap value), .of "ping" Probe.decoder, .of "sync" Probe.decoder ]

/-- Reads a status. -/
def Status.decoder : Json.Decoder Status := fun node => do
  let fs ← record "SyncStatus" Status.rules true node
  return {
    daemonState := ← fs.read "daemon_state" DaemonState.decoder (.other "unknown")
    daemonDetail := ← fs.readOption "daemon_detail" string
    enabled := ← fs.read "enabled" value .null
    pending := ← fs.read "pending" value .null
    lastSyncAt := ← fs.readOption "last_sync_at" string
    lastSyncAtUtc := ← fs.readOption "last_sync_at_utc" string
    lastPingAt := ← fs.readOption "last_ping_at" string
    lastSyncError := ← fs.readOption "last_sync_error" string
    lastPingError := ← fs.readOption "last_ping_error" string
    peers := ← fs.read "peers" (stringMap value) []
    ping := ← fs.read "ping" Probe.decoder {}
    sync := ← fs.read "sync" Probe.decoder {} }

/-- Reads the value in full, then a status when it is an object, and nothing otherwise. A
status that does not decode is an error carrying the status's own message. -/
def Status.objectOrNone : Json.Decoder (Option Status) := fun node => do
  match ← value node with
  | v@(.object _) =>
    match Status.decoder (Json.Located.ofJson v) with
    | .ok s => .ok (some s)
    | .error f => failAt node (.custom f.message)
  | _ => .ok none

/-- Reads a peer status. -/
def PeerStatus.decoder : Json.Decoder PeerStatus := fun node => do
  let fs ← record "PeerStatus"
    [ .of "sync_status" (option string), .of "ping_status" (option string),
      .of "last_sync_at" (option string), .of "last_sync_at_utc" (option string),
      .of "last_ping_at" (option string), .of "last_ping_at_utc" (option string) ] true node
  return {
    syncStatus := ← fs.readOption "sync_status" string
    pingStatus := ← fs.readOption "ping_status" string
    lastSyncAt := ← fs.readOption "last_sync_at" string
    lastSyncAtUtc := ← fs.readOption "last_sync_at_utc" string
    lastPingAt := ← fs.readOption "last_ping_at" string
    lastPingAtUtc := ← fs.readOption "last_ping_at_utc" string }

/-- Reads a peer. -/
def Peer.decoder : Json.Decoder Peer := fun node => do
  let fs ← record "SyncPeer"
    [ .of "peer_device_id" (option string), .of "name" (option string),
      .of "addresses" (list value), .of "status" PeerStatus.decoder ] true node
  return {
    peerDeviceId := ← fs.readOption "peer_device_id" string
    name := ← fs.readOption "name" string
    addresses := ← fs.read "addresses" (list value) []
    status := ← fs.read "status" PeerStatus.decoder {} }

/-- Reads an attempt. -/
def Attempt.decoder : Json.Decoder Attempt := fun node => do
  let fs ← record "SyncAttempt"
    [ .of "status" (option string), .of "address" (option string),
      .of "started_at" (option string), .of "started_at_utc" (option string) ] true node
  return {
    status := ← fs.readOption "status" string
    address := ← fs.readOption "address" string
    startedAt := ← fs.readOption "started_at" string
    startedAtUtc := ← fs.readOption "started_at_utc" string }

/-- Reads a sync status report. -/
def StatusReport.decoder : Json.Decoder StatusReport := fun node => do
  let fs ← record "SyncStatusPayload"
    [ .of "status" Status.objectOrNone, .of "peers" (list Peer.decoder),
      .of "attempts" (list Attempt.decoder) ] true node
  return {
    status := ← fs.read "status" Status.objectOrNone none
    peers := ← fs.read "peers" (list Peer.decoder) []
    attempts := ← fs.read "attempts" (list Attempt.decoder) [] }

end Sync

end MemoryDashboard
