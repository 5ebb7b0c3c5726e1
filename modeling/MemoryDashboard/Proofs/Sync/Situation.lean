import MemoryDashboard.Sync.View
import MemoryDashboard.Health.Inputs
import MemoryDashboard.Health.Overview
import Mathlib

/-! # The sync situation on the panel and on the health card

The sync panel and the health overview each tell three situations apart: sync disabled, sync
without peers, and active sync. Both call sync disabled in the same case: the daemon reports
`disabled` or the status carries an explicit `enabled: false` (`syncDisabled_ofPayloads`).

They count peers in different places. The panel counts the peers of the status object
(`status.peers`, a map by identifier); the health signal counts the peers listed beside the
status in the report (`peers`, a list). So the panel shows no peers when the status's map is
empty (`metaParts_second`), the card when the report's list is (`syncNoPeers_ofPayloads`), and a
report that fills one and not the other puts the two in different situations
(`listed_peer_unknown_to_status`). When both are empty or both are not, the panel's first meta
part is `State: ` and the card's value, in every situation (`sync_panel_and_card_agree`).
-/

namespace MemoryDashboard.Sync

open Health

section

variable (stats usage rawEvents : Json) (now : Time.Instant)

theorem syncDisabled_ofPayloads {report : StatusReport} {st : Status}
    (present : report.status = some st) :
    (HealthInputs.ofPayloads stats usage rawEvents (some report) now).signal.syncDisabled =
      st.disabled := by
  simp [HealthInputs.ofPayloads, present, HealthSignal.syncDisabled, Status.disabled]

theorem peerCount_ofPayloads (report : StatusReport) :
    (HealthInputs.ofPayloads stats usage rawEvents (some report) now).signal.peerCount =
      report.peers.length := rfl

theorem syncState_ofPayloads {report : StatusReport} {st : Status}
    (present : report.status = some st) :
    (HealthInputs.ofPayloads stats usage rawEvents (some report) now).signal.syncState =
      st.daemonState := by
  simp [HealthInputs.ofPayloads, present]

/-- The health card finds no peers when sync is on and the report lists none. -/
theorem syncNoPeers_ofPayloads {report : StatusReport} {st : Status}
    (present : report.status = some st) :
    (HealthInputs.ofPayloads stats usage rawEvents (some report) now).signal.syncNoPeers =
      (!st.disabled && report.peers.isEmpty) := by
  rw [HealthSignal.syncNoPeers, syncDisabled_ofPayloads stats usage rawEvents now present,
    peerCount_ofPayloads]
  cases report.peers <;> simp

end

/-! ### The panel's meta line -/

/-- The first part of the panel's meta line names the state. -/
theorem metaParts_head (st : Status) (peerCount : Nat) (now : Time.Instant) :
    (metaParts st peerCount now).head? =
      some (if st.disabled then "State: Disabled"
        else if peerCount = 0 then "State: No peers" else "State: " ++ st.daemonState.label) := by
  unfold metaParts
  by_cases disabled : st.disabled
  · simp [disabled]
  · by_cases none : peerCount = 0 <;> simp [disabled, none]

/-- The second part of the panel's meta line describes the situation. -/
theorem metaParts_second (st : Status) (peerCount : Nat) (now : Time.Instant) :
    (metaParts st peerCount now)[1]? =
      some (if st.disabled then "Sync is optional and currently off"
        else if peerCount = 0 then "Add peers to enable replication"
        else "Peers: " ++ toString peerCount) := by
  unfold metaParts
  by_cases disabled : st.disabled
  · simp [disabled]
  · by_cases none : peerCount = 0 <;> simp [disabled, none]

/-- The peer count part never reads as a situation's description: it starts with `P`. -/
theorem peers_part_head (n : Nat) : ("Peers: " ++ toString n).toList.head? = some 'P' := by
  simp [String.toList_append]

/-- A text that does not start with `P` is no peer count part. -/
theorem ne_peers_of_head {s : String} (head : s.toList.head? ≠ some 'P') (n : Nat) :
    s ≠ "Peers: " ++ toString n := by
  intro same
  have heads := congrArg (fun s : String => s.toList.head?) same
  simp only [peers_part_head] at heads
  exact head heads

theorem off_ne_peers (n : Nat) : "Sync is optional and currently off" ≠ "Peers: " ++ toString n :=
  ne_peers_of_head (by simp) n

theorem add_ne_peers (n : Nat) : "Add peers to enable replication" ≠ "Peers: " ++ toString n :=
  ne_peers_of_head (by simp) n

theorem off_ne_add : "Sync is optional and currently off" ≠ "Add peers to enable replication" := by
  simp

/-- The panel takes its disabled branch exactly when sync is disabled. -/
theorem panel_disabled_iff (st : Status) (peerCount : Nat) (now : Time.Instant) :
    (metaParts st peerCount now)[1]? = some "Sync is optional and currently off" ↔
      st.disabled = true := by
  rw [metaParts_second]
  by_cases disabled : st.disabled
  · simp [disabled]
  · rw [if_neg disabled, Option.some.injEq]
    refine ⟨fun same => ?_, fun on => absurd on disabled⟩
    split at same
    · exact absurd same.symm off_ne_add
    · exact absurd same.symm (off_ne_peers peerCount)

/-- The panel takes its no-peers branch exactly when sync is on and the count is zero. -/
theorem panel_noPeers_iff (st : Status) (peerCount : Nat) (now : Time.Instant) :
    (metaParts st peerCount now)[1]? = some "Add peers to enable replication" ↔
      st.disabled = false ∧ peerCount = 0 := by
  rw [metaParts_second]
  by_cases disabled : st.disabled
  · simp only [disabled, if_true, Option.some.injEq, off_ne_add, Bool.true_eq_false, false_and]
  · rw [if_neg disabled, Option.some.injEq]
    by_cases none : peerCount = 0
    · simp [disabled, none]
    · rw [if_neg none]
      exact ⟨fun same => absurd same.symm (add_ne_peers peerCount), fun on => absurd on.2 none⟩

/-! ### The panel and the card -/

/-- The card's value as the panel would name the state: `Disabled`, `No peers`, or the label. -/
theorem syncCardValue_ofPayloads (stats usage rawEvents : Json) (now : Time.Instant)
    {report : StatusReport} {st : Status} (present : report.status = some st) :
    syncCardValue (HealthInputs.ofPayloads stats usage rawEvents (some report) now).signal =
      if st.disabled then "Disabled"
      else if report.peers = [] then "No peers" else st.daemonState.label := by
  rw [syncCardValue, syncDisabled_ofPayloads stats usage rawEvents now present,
    syncNoPeers_ofPayloads stats usage rawEvents now present,
    syncState_ofPayloads stats usage rawEvents now present]
  by_cases disabled : st.disabled
  · simp [disabled]
  · by_cases none : report.peers = [] <;> simp [disabled, none]

/-- For a report with a status, the panel and the health card call sync disabled alike. The
panel shows no peers when sync is on and the status's own peer map is empty, the card when sync
is on and the report's peer list is empty; when the two are empty together, the panel's meta
line opens with `State: ` and the card's value, whatever the situation. -/
theorem sync_panel_and_card_agree (report : StatusReport) (st : Status)
    (present : report.status = some st) (stats usage rawEvents : Json) (redact : Bool)
    (now : Time.Instant) :
    let view := SyncView.build report redact now
    let signal := (HealthInputs.ofPayloads stats usage rawEvents (some report) now).signal
    let parts := metaParts st st.peers.length now
    view.metaText = " · ".intercalate parts ∧
      (parts[1]? = some "Sync is optional and currently off" ↔ signal.syncDisabled = true) ∧
      (parts[1]? = some "Add peers to enable replication" ↔
        signal.syncDisabled = false ∧ st.peers = []) ∧
      (signal.syncNoPeers = true ↔ signal.syncDisabled = false ∧ report.peers = []) ∧
      ((st.peers = [] ↔ report.peers = []) →
        parts.head? = some ("State: " ++ syncCardValue signal)) := by
  intro view signal parts
  have disabled : signal.syncDisabled = st.disabled :=
    syncDisabled_ofPayloads stats usage rawEvents now present
  refine ⟨by simp [view, parts, SyncView.build, present], ?_, ?_, ?_, fun together => ?_⟩
  · rw [disabled]
    exact panel_disabled_iff st _ now
  · rw [disabled, panel_noPeers_iff, List.length_eq_zero_iff]
  · rw [syncNoPeers_ofPayloads stats usage rawEvents now present, disabled]
    cases st.disabled <;> simp
  · -- the panel names the state from the status's peers, the card from the report's
    rw [metaParts_head, syncCardValue_ofPayloads stats usage rawEvents now present]
    simp only [List.length_eq_zero_iff, together]
    by_cases off : st.disabled
    · simp [off]
    · by_cases none : report.peers = [] <;> simp [off, none]

/-- The status of the test report in its simplest form: an empty status, no peers. -/
theorem empty_status_agrees :
    ({ status := some {} } : StatusReport).status = some {} ∧
      (metaParts {} 0 ⟨0, 0, 0⟩).head? =
        some ("State: " ++ syncCardValue
          (HealthInputs.ofPayloads .null .null .null (some { status := some {} }) ⟨0, 0, 0⟩).signal) :=
  ⟨rfl, (sync_panel_and_card_agree { status := some {} } {} rfl .null .null .null true
    ⟨0, 0, 0⟩).2.2.2.2 (by simp)⟩

/-- A running daemon with a peer listed in the report but not in the status: the panel shows no
peers while the card shows the running state. -/
theorem listed_peer_unknown_to_status :
    (SyncView.build { status := some { daemonState := .other "running" }, peers := [{}] } true
        ⟨0, 0, 0⟩).metaText = "State: No peers · Add peers to enable replication" ∧
      (HealthInputs.ofPayloads .null .null .null
        (some { status := some { daemonState := .other "running" }, peers := [{}] })
        ⟨0, 0, 0⟩).signal.syncNoPeers = false ∧
      syncCardValue (HealthInputs.ofPayloads .null .null .null
        (some { status := some { daemonState := .other "running" }, peers := [{}] })
        ⟨0, 0, 0⟩).signal = (DaemonState.other "running").label := by
  refine ⟨?_, rfl, ?_⟩
  · simp [SyncView.build, metaParts, Status.disabled, Status.enabledFlag, Json.asBool?, nonEmpty]
  · rw [syncCardValue_ofPayloads .null .null .null ⟨0, 0, 0⟩ rfl]
    simp [Status.disabled, Status.enabledFlag, Json.asBool?]

end MemoryDashboard.Sync
