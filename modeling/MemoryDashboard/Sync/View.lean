import MemoryDashboard.Sync.Status
import MemoryDashboard.Sync.Address
import MemoryDashboard.Time.Age
import MemoryDashboard.Decimal.Layout
/-!
# The sync panel

What the sync panel shows for a status report: the state's label, a meta line, diagnostics,
suggested actions, one row per peer and one per recent attempt.

Sync is in one of three situations: disabled (by the daemon or by the status), without peers
(enabled, but the status lists none), or active. The meta line and the diagnostics describe the
situation; only an active sync shows its errors and the seconds since the last sync and ping.
Actions are suggested for a stopped daemon, then for errors, then for pending work, and never
while there are no peers or all peers are offline.

Without a status the panel is still loading, but shows the peers and attempts it has.
-/

namespace MemoryDashboard

namespace Sync

/-- A labelled value of the diagnostics list. -/
structure Diagnostic where
  label : String
  value : String
  deriving DecidableEq, Inhabited, Repr

/-- A command the operator can run. -/
structure SyncAction where
  label : String
  command : String
  deriving DecidableEq, Inhabited, Repr

/-- One peer's row. -/
structure PeerView where
  displayName : String
  peerDeviceId : Option String
  online : Bool
  primaryAddress : Option String
  addressLine : String
  metaText : String
  deriving DecidableEq, Inhabited, Repr

/-- One attempt's row. -/
structure AttemptView where
  status : String
  address : String
  time : String
  deriving DecidableEq, Inhabited, Repr

/-- The sync panel. -/
structure SyncView where
  stateLabel : String
  metaText : String
  diagnostics : List Diagnostic := []
  actions : List SyncAction := []
  peers : List PeerView := []
  attempts : List AttemptView := []
  deriving DecidableEq, Inhabited, Repr

/-- The most actions suggested. -/
def maxSyncActions : Nat := 2

/-- The panel when sync cannot be reached. -/
def SyncView.unavailable : SyncView := { stateLabel := "Unknown", metaText := "Sync unavailable" }

/-- The panel before the first status arrives. -/
def SyncView.loading : SyncView :=
  { SyncView.unavailable with metaText := "Loading sync status…" }

/-- Redacts an address when asked to. -/
def shownAddress (redact : Bool) (address : String) : String :=
  if redact then redactOctets address else address

/-- A peer's row: named by its name, else the first eight characters of its identifier, else
`unknown`; online when its last sync or ping was `ok`. -/
def PeerView.ofPeer (redact : Bool) (peer : Peer) : PeerView :=
  let peerId := nonEmpty peer.peerDeviceId
  let displayName := ((nonEmpty peer.name).orElse fun _ =>
    peerId.map fun id => String.ofList (id.toList.take 8)).getD "unknown"
  let st := peer.status
  let addresses := uniqueAddresses peer.addresses
  let lastSync := (nonEmpty st.lastSyncAt).orElse fun _ => nonEmpty st.lastSyncAtUtc
  let lastPing := (nonEmpty st.lastPingAt).orElse fun _ => nonEmpty st.lastPingAtUtc
  let stamp (label : String) : Option String → String
    | some t => label ++ ": " ++ Time.timestampText (some t)
    | none => label ++ ": never"
  { displayName, peerDeviceId := peerId
    online := st.syncStatus == some "ok" || st.pingStatus == some "ok"
    primaryAddress := Sync.primaryAddress peer.addresses
    addressLine :=
      if addresses.isEmpty then "No addresses"
      else " · ".intercalate (addresses.map (shownAddress redact))
    metaText := stamp "Sync" lastSync ++ " · " ++ stamp "Ping" lastPing }

/-- An attempt's row: a missing address is empty when redacting and `n/a` otherwise. -/
def AttemptView.ofAttempt (redact : Bool) (a : Attempt) : AttemptView :=
  let address :=
    match nonEmpty a.address, redact with
    | some addr, true => redactOctets addr
    | none, true => ""
    | some addr, false => addr
    | none, false => "n/a"
  let time := (((nonEmpty a.startedAt).orElse fun _ => nonEmpty a.startedAtUtc).map
    fun t => Time.timestampText (some t)).getD ""
  { status := (nonEmpty a.status).getD "unknown", address, time }

/-- How long ago a timestamp was, or `never`. -/
def agoText (now : Time.Instant) : Option String → String
  | some t => Time.ageShort (Time.secondsSince (some t) now) ++ " ago"
  | none => "never"

/-- The meta line's parts for a status. -/
def metaParts (st : Status) (peerCount : Nat) (now : Time.Instant) : List String :=
  let disabled := st.disabled
  let noPeers := !disabled && peerCount == 0
  let base :=
    if disabled then ["State: Disabled", "Sync is optional and currently off"]
    else if noPeers then ["State: No peers", "Add peers to enable replication"]
    else
      [ "State: " ++ st.daemonState.label, "Peers: " ++ toString peerCount,
        "Last sync: " ++ agoText now st.lastSync ]
  let offline :=
    if st.daemonState == .offlinePeers then
      ["All peers are currently offline; sync will resume automatically"]
    else []
  let detail :=
    match nonEmpty st.daemonDetail with
    | some d => if st.daemonState == .stopped then ["Detail: " ++ d] else []
    | none => []
  base ++ offline ++ detail

/-- The seconds since a probe last ran, when they are a non-zero lenient number. -/
def probeDiagnostic (label : String) (p : Probe) : List Diagnostic :=
  match (Json.lenientFloat? p.secondsSinceLast).filter (· != 0.0) with
  | some secs => [⟨label, Decimal.floatText Decimal.Layout.plain secs ++ "s"⟩]
  | none => []

/-- The diagnostics for a status. -/
def statusDiagnostics (st : Status) (peerCount : Nat) (now : Time.Instant) : List Diagnostic :=
  let disabled := st.disabled
  let noPeers := !disabled && peerCount == 0
  let pending := toString st.pendingCount
  let base :=
    if disabled then
      [⟨"State", "Disabled"⟩, ⟨"Mode", "Optional"⟩, ⟨"Pending events", pending⟩,
        ⟨"Last sync", "n/a"⟩]
    else if noPeers then
      [⟨"State", "No peers"⟩, ⟨"Mode", "Idle"⟩, ⟨"Pending events", pending⟩,
        ⟨"Last sync", "n/a"⟩]
    else
      [⟨"State", st.daemonState.label⟩, ⟨"Pending events", pending⟩,
        ⟨"Last sync", agoText now st.lastSync⟩, ⟨"Last ping", agoText now st.lastPing⟩]
  if !disabled && !noPeers then
    base ++ (st.errorLine.map fun e => (⟨e, "Errors"⟩ : Diagnostic)).toList ++
      probeDiagnostic "Since last sync" st.sync ++ probeDiagnostic "Since last ping" st.ping
  else base

/-- The actions for a status. -/
def syncActions (st : Status) (peerCount : Nat) : List SyncAction :=
  let disabled := st.disabled
  let noPeers := !disabled && peerCount == 0
  let active := !disabled && !noPeers
  let actions : List SyncAction :=
    if noPeers || st.daemonState == .offlinePeers then []
    else if st.daemonState == .stopped then
      [⟨"Sync daemon is stopped. Start it.", "uv run codemem sync start"⟩,
        ⟨"Then run one immediate sync pass.", "uv run codemem sync once"⟩]
    else if st.errorLine.isSome || st.daemonState == .error then
      [⟨"Sync reports errors. Restart now.",
          "uv run codemem sync restart && uv run codemem sync once"⟩,
        ⟨"Then run doctor for root cause.", "uv run codemem sync doctor"⟩]
    else if active && st.pendingCount > 0 then
      [⟨"Pending sync work detected. Run one pass now.", "uv run codemem sync once"⟩]
    else []
  actions.take maxSyncActions

/-- The panel for a status report. The peer count of the situation is the number of peers the
status lists. -/
def SyncView.build (report : StatusReport) (redact : Bool) (now : Time.Instant) : SyncView :=
  let peers := report.peers.map (PeerView.ofPeer redact)
  let attempts := report.attempts.map (AttemptView.ofAttempt redact)
  match report.status with
  | none => { SyncView.loading with peers, attempts }
  | some st =>
    let peerCount := st.peers.length
    { stateLabel := st.daemonState.label
      metaText := " · ".intercalate (metaParts st peerCount now)
      diagnostics := statusDiagnostics st peerCount now
      actions := syncActions st peerCount
      peers, attempts }

/-- The diagnostic as the dashboard writes it. -/
def Diagnostic.toJson (d : Diagnostic) : Json := Json.obj [("label", .str d.label), ("value", .str d.value)]

/-- The action as the dashboard writes it. -/
def SyncAction.toJson (a : SyncAction) : Json :=
  Json.obj [("label", .str a.label), ("command", .str a.command)]

/-- The peer row as the dashboard writes it. -/
def PeerView.toJson (p : PeerView) : Json :=
  Json.obj
    [ ("display_name", .str p.displayName), ("peer_device_id", optText p.peerDeviceId),
      ("online", .bool p.online), ("primary_address", optText p.primaryAddress),
      ("address_line", .str p.addressLine), ("meta", .str p.metaText) ]

/-- The attempt row as the dashboard writes it. -/
def AttemptView.toJson (a : AttemptView) : Json :=
  Json.obj [("status", .str a.status), ("address", .str a.address), ("time", .str a.time)]

/-- The panel as the dashboard writes it. -/
def SyncView.toJson (v : SyncView) : Json :=
  Json.obj
    [ ("state_label", .str v.stateLabel), ("meta", .str v.metaText),
      ("diagnostics", .array (v.diagnostics.map Diagnostic.toJson)),
      ("actions", .array (v.actions.map SyncAction.toJson)),
      ("peers", .array (v.peers.map PeerView.toJson)),
      ("attempts", .array (v.attempts.map AttemptView.toJson)) ]

end Sync

end MemoryDashboard
