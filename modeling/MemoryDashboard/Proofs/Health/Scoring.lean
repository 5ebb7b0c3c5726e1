import MemoryDashboard.Health.Score
import Mathlib.Data.List.Nodup

/-! # The health score as a table of rules

The score goes through its rules in order. Most rules stand alone; a tier (backlog, dropped
events, the daemon's state, the sync's recency) counts only its first rule that applies. Read
as a table, every rule is a phrase, its points and a condition of its own, the tier's earlier
rules written into it (`scoreRules`), and the score's findings are those of the rules whose
condition holds, in table order (`findings_eq_fired`).

So the drivers are a subsequence of the table's phrases, each at most once, and the risk score
is the sum of the points of the rules they name; the daemon and sync-age rules count only for a
sync that is on and has peers, and batch errors only under a backlog. No tier counts twice, so
the score stays at most 176 and the 32-bit tally never overflows (`score_follows_rule_table`).

The score only grows with the risks it counts: more backlog, more batch errors, more peers, an
older sync or an older memory pack never lower it, nor the status it gives
(`score_grows_with_risks`).
-/

namespace MemoryDashboard.Health

/-- The points of some findings together. -/
def points (fs : List Finding) : Nat := (fs.map Finding.points).foldr (· + ·) 0

@[simp]
theorem points_nil : points [] = 0 := rfl

@[simp]
theorem points_cons (f : Finding) (fs : List Finding) : points (f :: fs) = f.points + points fs :=
  rfl

@[simp]
theorem points_append (fs gs : List Finding) : points (fs ++ gs) = points fs + points gs := by
  induction fs with
  | nil => simp
  | cons f fs ih => simp [ih, Nat.add_assoc]

@[simp]
theorem points_findingIf (condition : Bool) (p : Nat) (driver : String) :
    points (findingIf condition p driver) = if condition then p else 0 := by
  cases condition <;> rfl

theorem points_backlogFindings (s : HealthSignal) :
    points s.backlogFindings =
      if s.rawPending ≥ highBacklogPending then 40
      else if s.rawPending ≥ backlogPending then 24 else 0 := by
  unfold HealthSignal.backlogFindings
  split
  · rfl
  · simp

theorem points_recencyFindings (s : HealthSignal) :
    points s.recencyFindings =
      if s.syncOfflinePeers then 4 + (if s.syncLooksStale then 4 else 0)
      else if s.syncLooksStale then 26
      else if s.syncAgeSecs.any (· > syncNotRecentSecs) then 12 else 0 := by
  unfold HealthSignal.recencyFindings
  split
  · simp
  · split
    · rfl
    · simp

theorem riskScore_score (s : HealthSignal) : (score s).riskScore = points s.findings := by
  simp only [score, HealthReport.ofFindings, points]

-- unfolding the report, not `rfl`: the kernel would otherwise evaluate `statusFor` on both sides
theorem status_score (s : HealthSignal) : (score s).status = statusFor (score s).riskScore := by
  simp only [score, HealthReport.ofFindings]

theorem drivers_score (s : HealthSignal) : (score s).drivers = s.findings.map Finding.driver := by
  simp only [score, HealthReport.ofFindings]

/-! ### The rules one by one -/

/-- A rule of the score read on its own: the phrase it adds, the points it awards and when it
fires, with the earlier rules of its tier written into its condition. -/
structure Rule where
  driver : String
  points : HealthSignal → Nat
  fires : HealthSignal → Bool

namespace Rule

/-- A rule worth the same points whenever it fires. -/
def fixed (driver : String) (points : Nat) (fires : HealthSignal → Bool) : Rule :=
  ⟨driver, fun _ => points, fires⟩

/-- What a rule finds in a signal when it fires. -/
def finding (s : HealthSignal) (r : Rule) : Finding := ⟨r.points s, r.driver⟩

end Rule

def backlogRules : List Rule :=
  [ .fixed "high raw-event backlog" 40 fun s => s.rawPending ≥ highBacklogPending,
    .fixed "growing raw-event backlog" 24 fun s =>
      backlogPending ≤ s.rawPending && s.rawPending < highBacklogPending ]

def batchRules : List Rule :=
  [ ⟨"batch errors during backlog pressure", fun s => if s.erroredBatches ≥ 5 then 10 else 6,
      fun s => s.erroredBatches > 0 && s.rawPending ≥ backlogPending⟩ ]

def flushRules : List Rule := [.fixed "lower flush success" 20 fun s => s.flushSuccessRate < 0.95]

def droppedRules : List Rule :=
  [ .fixed "high dropped-event rate" 24 fun s => s.droppedRate > 0.02,
    .fixed "non-trivial dropped-event rate" 10 fun s =>
      !decide (s.droppedRate > 0.02) && s.droppedRate > 0.005 ]

/-- The daemon-state tier of an active sync. -/
def daemonRules : List Rule :=
  [ .fixed "sync daemon reports errors" 36 fun s => s.syncActive && s.syncState == .error,
    .fixed "sync daemon stopped" 22 fun s => s.syncActive && s.syncState == .stopped,
    .fixed "sync daemon degraded" 20 fun s => s.syncActive && s.syncState == .degraded ]

/-- The recency tier of an active sync, with its one nested rule. -/
def recencyRules : List Rule :=
  [ .fixed "all peers currently offline" 4 fun s => s.syncActive && s.syncOfflinePeers,
    .fixed "offline peers and sync not recent" 4 fun s =>
      s.syncActive && s.syncOfflinePeers && s.syncLooksStale,
    .fixed "sync looks stale" 26 fun s => s.syncActive && !s.syncOfflinePeers && s.syncLooksStale,
    .fixed "sync not recent" 12 fun s =>
      s.syncActive && !s.syncOfflinePeers && !s.syncLooksStale &&
        s.syncAgeSecs.any (· > syncNotRecentSecs) ]

/-- The rules of an active sync: the daemon's state and the sync's age. -/
def syncRules : List Rule := daemonRules ++ recencyRules

def reductionRules : List Rule :=
  [.fixed "low retrieval reduction" 8 fun s => s.reductionPercent.any (· < 10.0)]

def packRules : List Rule :=
  [.fixed "memory pack activity is old" 12 fun s => s.packAgeSecs.any (· > packOldSecs)]

/-- Every rule of the score, in the order the score applies them. -/
def scoreRules : List Rule :=
  backlogRules ++ batchRules ++ flushRules ++ droppedRules ++ syncRules ++ reductionRules ++
    packRules

/-- What the rules of a table that fire find, in table order. -/
def firedFindings (rules : List Rule) (s : HealthSignal) : List Finding :=
  (rules.filter (·.fires s)).map (·.finding s)

@[simp]
theorem firedFindings_append (rules more : List Rule) (s : HealthSignal) :
    firedFindings (rules ++ more) s = firedFindings rules s ++ firedFindings more s := by
  simp [firedFindings, List.filter_append]

namespace HealthSignal

variable (s : HealthSignal)

theorem backlogFindings_eq : s.backlogFindings = firedFindings backlogRules s := by
  unfold backlogFindings firedFindings backlogRules
  by_cases high : s.rawPending ≥ highBacklogPending
  · have notGrowing : ¬ s.rawPending < highBacklogPending := by omega
    simp [Rule.fixed, Rule.finding, high, notGrowing]
  · have below : s.rawPending < highBacklogPending := by omega
    by_cases growing : s.rawPending ≥ backlogPending <;>
      simp [Rule.fixed, Rule.finding, findingIf, high, below, growing]

theorem batchFindings_eq : s.batchFindings = firedFindings batchRules s := by
  by_cases fires : (s.erroredBatches > 0 && s.hasBacklog) = true
  · simp only [batchFindings, findingIf, fires, ↓reduceIte]
    simp_all [firedFindings, batchRules, Rule.finding, hasBacklog]
  · simp only [batchFindings, findingIf, fires, Bool.false_eq_true, ↓reduceIte]
    simp_all [firedFindings, batchRules, hasBacklog]

theorem flushFindings_eq : s.flushFindings = firedFindings flushRules s := by
  by_cases low : s.flushSuccessRate < 0.95 <;>
    simp [flushFindings, firedFindings, flushRules, Rule.fixed, Rule.finding, findingIf, low]

theorem droppedFindings_eq : s.droppedFindings = firedFindings droppedRules s := by
  by_cases high : s.droppedRate > 0.02
  · simp [droppedFindings, firedFindings, droppedRules, Rule.fixed, Rule.finding, high]
  · by_cases some : s.droppedRate > 0.005 <;>
      simp [droppedFindings, firedFindings, droppedRules, Rule.fixed, Rule.finding, findingIf,
        high, some]

theorem daemonFindings_eq (active : s.syncActive = true) :
    s.daemonFindings = firedFindings daemonRules s := by
  cases state : s.syncState <;>
    simp [daemonFindings, firedFindings, daemonRules, Rule.fixed, Rule.finding, active, state]

theorem recencyFindings_eq (active : s.syncActive = true) :
    s.recencyFindings = firedFindings recencyRules s := by
  by_cases offline : s.syncOfflinePeers = true <;> by_cases stale : s.syncLooksStale = true <;>
    by_cases old : s.syncAgeSecs.any (· > syncNotRecentSecs) = true <;>
    simp [recencyFindings, firedFindings, recencyRules, Rule.fixed, Rule.finding, findingIf,
      active, offline, stale, old]

theorem syncFindings_eq : s.syncFindings = firedFindings syncRules s := by
  by_cases active : s.syncActive = true
  · rw [syncFindings, if_pos active, syncRules, firedFindings_append, s.daemonFindings_eq active,
      s.recencyFindings_eq active]
  · -- every rule of the sync asks first for an active sync
    simp [syncFindings, firedFindings, syncRules, daemonRules, recencyRules, Rule.fixed, active]

theorem reductionFindings_eq : s.reductionFindings = firedFindings reductionRules s := by
  by_cases low : s.reductionPercent.any (· < 10.0) = true <;>
    simp [reductionFindings, firedFindings, reductionRules, Rule.fixed, Rule.finding, findingIf,
      low]

theorem packFindings_eq : s.packFindings = firedFindings packRules s := by
  by_cases old : s.packAgeSecs.any (· > packOldSecs) = true <;>
    simp [packFindings, firedFindings, packRules, Rule.fixed, Rule.finding, findingIf, old]

/-- The score's findings are those of the rules that fire, in the table's order. -/
theorem findings_eq_fired : s.findings = firedFindings scoreRules s := by
  rw [findings, scoreRules, backlogFindings_eq, batchFindings_eq, flushFindings_eq,
    droppedFindings_eq, syncFindings_eq, reductionFindings_eq, packFindings_eq]
  simp only [firedFindings_append]

end HealthSignal

theorem scoreRules_drivers_nodup : (scoreRules.map Rule.driver).Nodup := by
  decide

/-- A listed phrase names the one rule of the table with that phrase, and that rule fired. -/
theorem fires_of_mem_drivers {s : HealthSignal} {d : String} (listed : d ∈ (score s).drivers)
    {r : Rule} (member : r ∈ scoreRules) (named : r.driver = d) : r.fires s = true := by
  rw [drivers_score, s.findings_eq_fired, firedFindings, List.map_map] at listed
  obtain ⟨q, fired, same⟩ := List.mem_map.mp listed
  have fires := (List.mem_filter.mp fired).2
  have inTable := (List.mem_filter.mp fired).1
  -- phrases are distinct, so the fired rule is `r`
  have : q = r := List.inj_on_of_nodup_map scoreRules_drivers_nodup inTable member
    (same.trans named.symm)
  exact this ▸ fires

/-! ### No tier counts twice -/

namespace HealthSignal

variable (s : HealthSignal)

theorem backlog_points_le : points s.backlogFindings ≤ 40 := by
  unfold backlogFindings
  split
  · simp
  · simp only [points_findingIf]
    split <;> omega

theorem batch_points_le : points s.batchFindings ≤ 10 := by
  simp only [batchFindings, points_findingIf]
  split
  · split <;> omega
  · omega

theorem daemon_points_le : points s.daemonFindings ≤ 36 := by
  unfold daemonFindings
  split <;> simp

theorem recency_points_le : points s.recencyFindings ≤ 26 := by
  unfold recencyFindings
  split
  · simp only [points_cons, points_findingIf]
    split <;> omega
  · split
    · simp
    · simp only [points_findingIf]
      split <;> omega

theorem sync_points_le : points s.syncFindings ≤ 62 := by
  unfold syncFindings
  split
  · simp only [points_append]
    have daemon := s.daemon_points_le
    have recency := s.recency_points_le
    omega
  · simp

/-- The score never passes 176: 40 for the backlog, 10 for batch errors, 20 for flushes, 24 for
dropped events, 62 for the sync, 8 for retrieval and 12 for the memory pack. -/
theorem riskScore_le : (score s).riskScore ≤ 176 := by
  rw [riskScore_score, findings]
  simp only [points_append]
  have backlog := s.backlog_points_le
  have batch := s.batch_points_le
  have sync := s.sync_points_le
  have flush : points s.flushFindings ≤ 20 := by
    simp only [flushFindings, points_findingIf]
    split <;> omega
  have dropped : points s.droppedFindings ≤ 24 := by
    unfold droppedFindings
    split
    · simp
    · simp only [points_findingIf]
      split <;> omega
  have reduction : points s.reductionFindings ≤ 8 := by
    simp only [reductionFindings, points_findingIf]
    split <;> omega
  have pack : points s.packFindings ≤ 12 := by
    simp only [packFindings, points_findingIf]
    split <;> omega
  omega

end HealthSignal

/-- For every signal, the score follows its table of rules: the drivers are the phrases of the
rules that fire, so a subsequence of the table's phrases without repetition; the risk score is
the sum of those rules' points and at most 176; the status is the status of that score; the
rules of the sync count only for a sync that is on and has peers, and batch errors only with a
backlog of at least 200 raw events. -/
theorem score_follows_rule_table (s : HealthSignal) :
    (score s).drivers = (scoreRules.filter (·.fires s)).map Rule.driver ∧
      (score s).drivers.Sublist (scoreRules.map Rule.driver) ∧ (score s).drivers.Nodup ∧
      (score s).riskScore = points (firedFindings scoreRules s) ∧
      (score s).riskScore ≤ 176 ∧
      (score s).status = statusFor (score s).riskScore ∧
      (∀ d ∈ (score s).drivers, d ∈ syncRules.map Rule.driver → s.syncActive = true) ∧
      ("batch errors during backlog pressure" ∈ (score s).drivers →
        s.rawPending ≥ backlogPending) := by
  have drivers : (score s).drivers = (scoreRules.filter (·.fires s)).map Rule.driver := by
    rw [drivers_score, s.findings_eq_fired, firedFindings, List.map_map]
    rfl
  have sublist : (score s).drivers.Sublist (scoreRules.map Rule.driver) :=
    drivers ▸ (List.filter_sublist).map Rule.driver
  refine ⟨drivers, sublist, scoreRules_drivers_nodup.sublist sublist, ?_, s.riskScore_le,
    status_score s, ?_, ?_⟩
  · rw [riskScore_score, s.findings_eq_fired]
  · intro d listed sync
    obtain ⟨r, member, named⟩ := List.mem_map.mp sync
    have fires := fires_of_mem_drivers listed (by simp [scoreRules, member]) named
    -- every rule of the sync asks first for an active sync
    simp only [syncRules, daemonRules, recencyRules, List.cons_append, List.nil_append,
      List.mem_cons, List.not_mem_nil, or_false] at member
    rcases member with rfl | rfl | rfl | rfl | rfl | rfl | rfl <;>
      simp_all [Rule.fixed]
  · intro listed
    have fires := fires_of_mem_drivers listed (r := batchRules.head (by simp [batchRules]))
      (by simp [scoreRules, batchRules]) rfl
    simp_all [batchRules]

/-! ### More risk never lowers the score -/

/-- How serious a status is: healthy, then degraded, then attention. -/
def HealthStatus.severity : HealthStatus → Nat
  | .healthy => 0
  | .degraded => 1
  | .attention => 2

/-- A tiered amount, `top` when the first condition holds, else `mid` when the second does, else
`bot`, only grows when each condition, once it holds, keeps holding. -/
theorem tiers_le {p q p' q' : Prop} [Decidable p] [Decidable q] [Decidable p'] [Decidable q']
    {top mid bot : Nat} (first : p → p') (second : q → q') (bot_le : bot ≤ mid)
    (mid_le : mid ≤ top) :
    (if p then top else if q then mid else bot) ≤ (if p' then top else if q' then mid else bot) := by
  by_cases topAfter : p'
  · rw [if_pos topAfter]
    split
    · exact Nat.le_refl top
    · split <;> omega
  · have notTop : ¬ p := fun holds => topAfter (first holds)
    rw [if_neg topAfter, if_neg notTop]
    by_cases midBefore : q
    · simp only [if_pos midBefore, if_pos (second midBefore), Nat.le_refl]
    · rw [if_neg midBefore]
      split <;> omega

theorem severity_statusFor (n : Nat) :
    (statusFor n).severity =
      if n ≥ attentionThreshold then 2 else if n ≥ degradedThreshold then 1 else 0 := by
  unfold statusFor
  split
  · rfl
  · split <;> rfl

theorem statusFor_severity_le {a b : Nat} (le : a ≤ b) :
    (statusFor a).severity ≤ (statusFor b).severity := by
  rw [severity_statusFor, severity_statusFor]
  exact tiers_le (fun above => Nat.le_trans above le) (fun above => Nat.le_trans above le)
    (by decide) (by decide)

namespace HealthSignal

/-- The risks `t` counts are at least those of `s`: the same rates, daemon state, enabled flag
and retrieval reduction, and no less backlog, batch errors, peers, sync age or pack age, an
unknown age lying below every known one. -/
structure RiskInputsLe (s t : HealthSignal) : Prop where
  flushSuccessRate : t.flushSuccessRate = s.flushSuccessRate
  droppedRate : t.droppedRate = s.droppedRate
  syncState : t.syncState = s.syncState
  syncEnabled : t.syncEnabled = s.syncEnabled
  reductionPercent : t.reductionPercent = s.reductionPercent
  rawPending : s.rawPending ≤ t.rawPending
  erroredBatches : s.erroredBatches ≤ t.erroredBatches
  peerCount : s.peerCount ≤ t.peerCount
  syncAgeSecs : s.syncAgeSecs ≤ t.syncAgeSecs
  packAgeSecs : s.packAgeSecs ≤ t.packAgeSecs

/-- An age past a limit stays past it when the age grows. -/
theorem any_gt_of_le {a b : Option Int} (le : a ≤ b) {limit : Int}
    (past : a.any (· > limit) = true) : b.any (· > limit) = true := by
  cases a with
  | none => simp at past
  | some x =>
      cases b with
      | none => simp at le
      | some y =>
          simp only [Option.any_some, decide_eq_true_eq] at past ⊢
          simp only [Option.some_le_some] at le
          omega

variable {s t : HealthSignal}

namespace RiskInputsLe

theorem backlog_le (risky : s.RiskInputsLe t) :
    points s.backlogFindings ≤ points t.backlogFindings := by
  have raised := risky.rawPending
  rw [points_backlogFindings, points_backlogFindings]
  exact tiers_le (fun high => Nat.le_trans high raised) (fun growing => Nat.le_trans growing raised)
    (by decide) (by decide)

theorem batch_le (risky : s.RiskInputsLe t) : points s.batchFindings ≤ points t.batchFindings := by
  have raised := risky.rawPending
  have more := risky.erroredBatches
  simp only [batchFindings, points_findingIf]
  by_cases fires : (decide (s.erroredBatches > 0) && s.hasBacklog) = true
  · have firesAfter : (decide (t.erroredBatches > 0) && t.hasBacklog) = true := by
      simp only [hasBacklog, Bool.and_eq_true, decide_eq_true_eq] at fires ⊢
      omega
    rw [if_pos fires, if_pos firesAfter]
    split <;> split <;> omega
  · rw [if_neg fires]
    exact Nat.zero_le _

theorem syncActive (risky : s.RiskInputsLe t) (active : s.syncActive = true) :
    t.syncActive = true := by
  have more := risky.peerCount
  simp only [HealthSignal.syncActive, syncDisabled, risky.syncState, risky.syncEnabled,
    Bool.and_eq_true, Bool.not_eq_true', decide_eq_true_eq] at active ⊢
  exact ⟨active.1, by omega⟩

theorem recency_le (risky : s.RiskInputsLe t) :
    points s.recencyFindings ≤ points t.recencyFindings := by
  have offline : t.syncOfflinePeers = s.syncOfflinePeers := by
    simp [syncOfflinePeers, risky.syncState]
  have stale : s.syncLooksStale = true → t.syncLooksStale = true :=
    any_gt_of_le risky.syncAgeSecs
  have old : s.syncAgeSecs.any (· > syncNotRecentSecs) = true →
      t.syncAgeSecs.any (· > syncNotRecentSecs) = true :=
    any_gt_of_le risky.syncAgeSecs
  rw [points_recencyFindings, points_recencyFindings, offline]
  by_cases allOffline : s.syncOfflinePeers = true
  · -- offline peers count 4, and 4 more once the sync is also stale
    rw [if_pos allOffline, if_pos allOffline]
    by_cases staleBefore : s.syncLooksStale = true
    · simp only [if_pos staleBefore, if_pos (stale staleBefore), Nat.le_refl]
    · rw [if_neg staleBefore]
      split <;> omega
  · rw [if_neg allOffline, if_neg allOffline]
    exact tiers_le stale old (by decide) (by decide)

theorem sync_le (risky : s.RiskInputsLe t) : points s.syncFindings ≤ points t.syncFindings := by
  by_cases active : s.syncActive = true
  · have daemon : t.daemonFindings = s.daemonFindings := by
      simp [daemonFindings, risky.syncState]
    have recency := risky.recency_le
    simp only [syncFindings, active, risky.syncActive active, ↓reduceIte, points_append, daemon]
    omega
  · simp [syncFindings, active]

theorem pack_le (risky : s.RiskInputsLe t) : points s.packFindings ≤ points t.packFindings := by
  have old : s.packAgeSecs.any (· > packOldSecs) = true →
      t.packAgeSecs.any (· > packOldSecs) = true :=
    any_gt_of_le risky.packAgeSecs
  simp only [packFindings, points_findingIf]
  by_cases past : s.packAgeSecs.any (· > packOldSecs) = true
  · simp only [if_pos past, if_pos (old past), Nat.le_refl]
  · rw [if_neg past]
    exact Nat.zero_le _

end RiskInputsLe

end HealthSignal

/-- More of the risks the score counts never lowers it: with the same rates, daemon state,
enabled flag and retrieval reduction, a signal with no less backlog, batch errors, peers, sync
age or pack age scores at least as high, and its status is at least as serious. -/
theorem score_grows_with_risks {s t : HealthSignal} (risky : s.RiskInputsLe t) :
    (score s).riskScore ≤ (score t).riskScore ∧
      (score s).status.severity ≤ (score t).status.severity := by
  have same : t.flushFindings = s.flushFindings ∧ t.droppedFindings = s.droppedFindings ∧
      t.reductionFindings = s.reductionFindings := by
    simp [HealthSignal.flushFindings, HealthSignal.droppedFindings,
      HealthSignal.reductionFindings, risky.flushSuccessRate, risky.droppedRate,
      risky.reductionPercent]
  have grows : (score s).riskScore ≤ (score t).riskScore := by
    rw [riskScore_score, riskScore_score, HealthSignal.findings, HealthSignal.findings, same.1,
      same.2.1, same.2.2]
    simp only [points_append]
    have backlog := risky.backlog_le
    have batch := risky.batch_le
    have sync := risky.sync_le
    have pack := risky.pack_le
    omega
  refine ⟨grows, ?_⟩
  rw [status_score, status_score]
  exact statusFor_severity_le grows

/-- A quiet signal against one with a high backlog, many batch errors, an erroring sync two and a
half hours behind and an old memory pack: the second scores at least as high. -/
theorem busier_signal_scores_higher :
    let quiet : HealthSignal := { syncState := .error }
    let busy : HealthSignal :=
      { rawPending := 1200, erroredBatches := 7, syncState := .error, peerCount := 2,
        syncAgeSecs := some 9000, packAgeSecs := some 90000 }
    quiet.RiskInputsLe busy ∧ (score quiet).riskScore ≤ (score busy).riskScore ∧
      (score quiet).status.severity ≤ (score busy).status.severity := by
  intro quiet busy
  have risky : quiet.RiskInputsLe busy :=
    { flushSuccessRate := rfl, droppedRate := rfl, syncState := rfl, syncEnabled := rfl,
      reductionPercent := rfl, rawPending := by decide, erroredBatches := by decide,
      peerCount := by decide, syncAgeSecs := by simp [quiet, busy],
      packAgeSecs := by simp [quiet, busy] }
  exact ⟨risky, score_grows_with_risks risky⟩

end MemoryDashboard.Health
