import MemoryDashboard.Sync.Status
import MemoryDashboard.Display.Figures
import MemoryDashboard.Time.Age
/-!
# Health inputs from service payloads

One refresh brings the service's statistics, its usage report, the raw-event queue and the
sync status. The health signal is read off them leniently: a count or rate is a lenient number
at a fixed path, zero when missing (the flush success rate is one when missing), and counts are
whole, non-negative and saturated.

The usage totals are the first object among the usage report's `totals_filtered`, `totals` and
`totals_global` and the statistics' `usage.totals`. The reduction is the share of saved tokens
among saved and read ones. Ages are whole seconds since the last sync and since the most recent
memory pack.
-/

namespace MemoryDashboard

namespace Health

/-- The signal and the values the overview cards show beside it. -/
structure HealthInputs where
  signal : HealthSignal := {}
  reductionLabel : String := ""
  tokensSaved : Float := 0.0
  tagsCoverage : Float := 0.0
  deriving Inhabited

/-- A lenient number at a path, zero when missing. -/
def numberAt (j : Json) (keys : List String) : Float :=
  ((j.path? keys).bind Json.lenientFloat?).getD 0.0

/-- The usage totals: the first object among the usage report's filtered, plain and global
totals and the statistics' usage totals. -/
def usageTotals (usage stats : Json) : Option Json :=
  ((["totals_filtered", "totals", "totals_global"].filterMap usage.field?) ++
    (stats.path? ["usage", "totals"]).toList).find? Json.isObject

/-- The creation time of the most recent memory pack, when it is a string. -/
def lastPackAt (usage : Json) : Option String :=
  ((usage.field? "recent_packs").bind Json.asArray?).bind fun packs =>
    (packs.head?.bind (·.field? "created_at")).bind Json.asString?

/-- A lenient count: at least zero, whole, saturated. -/
def countAt (j : Json) (keys : List String) : Nat :=
  Decimal.toUInt64Saturating (max (numberAt j keys) 0.0)

/-- Reads the health inputs off one refresh's payloads. -/
def HealthInputs.ofPayloads (stats usage rawEvents : Json) (sync : Option Sync.StatusReport)
    (now : Time.Instant) : HealthInputs :=
  let totals := (usageTotals usage stats).getD .null
  let saved := numberAt totals ["tokens_saved"]
  let read := numberAt totals ["tokens_read"]
  let reductionLabel := Display.reductionText saved read
  let status := sync.bind (·.status)
  let signal : HealthSignal :=
    { rawPending := countAt rawEvents ["pending"]
      erroredBatches := countAt stats ["reliability", "counts", "errored_batches"]
      flushSuccessRate :=
        ((stats.path? ["reliability", "rates", "flush_success_rate"]).bind
          Json.lenientFloat?).getD 1.0
      droppedRate := numberAt stats ["reliability", "rates", "dropped_event_rate"]
      syncState := (status.map (·.daemonState)).getD (.other "unknown")
      syncEnabled := status.bind Sync.Status.enabledFlag
      peerCount := (sync.map (·.peers.length)).getD 0
      syncAgeSecs := Time.secondsSince (status.bind Sync.Status.lastSync) now
      reductionPercent := Display.percentValue? reductionLabel
      packAgeSecs := Time.secondsSince (lastPackAt usage) now }
  { signal, reductionLabel, tokensSaved := saved,
    tagsCoverage := numberAt stats ["database", "tags_coverage"] }

end Health

end MemoryDashboard
