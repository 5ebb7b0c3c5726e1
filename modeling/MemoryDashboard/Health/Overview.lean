import MemoryDashboard.Health.Score
import MemoryDashboard.Health.Actions
import MemoryDashboard.Health.Inputs
/-!
# The health overview

Everything the health panel shows for one refresh: the report, five cards (overall health,
pipeline, retrieval impact, sync, data freshness), the remediation hints and a line explaining
the status.

Counts on cards are whole numbers with thousands separators. The pending count is shown as a
signed 64-bit number, so counts from 2^63 on wrap to negative ones; saved tokens are truncated
and saturated.
-/

namespace MemoryDashboard

namespace Health

/-- One card of the panel. -/
structure HealthCard where
  label : String
  value : String
  detail : String
  title : String
  deriving DecidableEq, Inhabited, Repr

/-- The card as the dashboard writes it. -/
def HealthCard.toJson (c : HealthCard) : Json :=
  Json.obj [("label", .str c.label), ("value", .str c.value), ("detail", .str c.detail),
    ("title", .str c.title)]

/-- What the health panel shows. -/
structure HealthOverview where
  report : HealthReport
  cards : List HealthCard
  actions : List HealthAction
  metaText : String
  deriving Inhabited

/-- A count of 64 bits read as a signed number. -/
def signed64 (n : Nat) : Int :=
  let w : Nat := n % Nat.pow 2 64
  if w < Nat.pow 2 63 then w else (w : Int) - Int.pow 2 64

/-- The sync card's value: disabled, no peers, or the state's label. -/
def syncCardValue (s : HealthSignal) : String :=
  if s.syncDisabled then "Disabled"
  else if s.syncNoPeers then "No peers"
  else s.syncState.label

/-- The sync card's detail: disabled, no peers, or the peers and the age of the last sync. -/
def syncCardDetail (s : HealthSignal) : String :=
  let age := Time.ageShort s.syncAgeSecs
  if s.syncDisabled then "Sync disabled"
  else if s.syncNoPeers then "No peers configured"
  else if s.syncOfflinePeers then
    toString s.peerCount ++ " peers offline · last sync " ++ age ++ " ago"
  else toString s.peerCount ++ " peers · last sync " ++ age ++ " ago"

/-- The five cards of a report and its inputs. -/
def overviewCards (inputs : HealthInputs) (report : HealthReport) : List HealthCard :=
  let s := inputs.signal
  let packAge := Time.ageShort s.packAgeSecs
  [ { label := "Overall health", value := report.status.label
      detail := "Weighted score " ++ toString report.riskScore
      title := if report.drivers.isEmpty then "No major risk signals detected"
        else "Main signals: " ++ ", ".intercalate report.drivers },
    { label := "Pipeline health"
      value := Text.countText (signed64 s.rawPending) ++ " pending"
      detail := if s.rawPending > 0 then "Queue is actively draining" else "Queue is clear"
      title := "Raw-event queue pressure and flush reliability" },
    { label := "Retrieval impact", value := inputs.reductionLabel
      detail := Text.countText (Decimal.toInt64Saturating inputs.tokensSaved) ++ " saved tokens"
      title := "Reduction from memory reuse across recent usage" },
    { label := "Sync health", value := syncCardValue s, detail := syncCardDetail s
      title := "Daemon state and sync recency" },
    { label := "Data freshness", value := packAge, detail := "last pack " ++ packAge ++ " ago"
      title := "Recency of last memory pack activity" } ]

/-- The overview of one refresh's inputs. -/
def HealthOverview.build (inputs : HealthInputs) : HealthOverview :=
  let report := score inputs.signal
  { report
    cards := overviewCards inputs report
    actions := recommend inputs.signal inputs.tagsCoverage
    metaText :=
      if report.drivers.isEmpty then
        "Healthy right now. Diagnostics stay available if you want details."
      else "Why this status: " ++ ", ".intercalate report.drivers ++ "." }

/-- The overview as the dashboard writes it. -/
def HealthOverview.toJson (o : HealthOverview) : Json :=
  Json.obj
    [ ("report", o.report.toJson), ("cards", .array (o.cards.map HealthCard.toJson)),
      ("actions", .array (o.actions.map HealthAction.toJson)), ("meta", .str o.metaText) ]

end Health

end MemoryDashboard
