import MemoryDashboard.Health.Overview

/-! # The pending count on the pipeline card

The pipeline card writes the raw-event queue's pending count with the signed 64-bit count
formatter. The count is read leniently off the queue payload and saturated to an unsigned
64-bit word, so it stays below `2^64` and can reach `2^64 - 1` (`rawPending_lt`). Read as a
signed number it is itself below `2^63` and the count less `2^64` from there
(`signed64_of_lt`, `signed64_of_le`).

Main statement (`pipeline_value_wraps`): for any payloads the card shows the count's digits,
grouped and unsigned, while the count is below `2^63`; from `2^63` on it shows a minus sign and
the digits of `2^64` less the count. A queue that reports `10^19` pending events is shown as
`-8,446,744,073,709,551,616 pending` (`pending_ten_quintillion_shown_negative`).
-/

namespace MemoryDashboard.Health

theorem two_pow_63 : Nat.pow 2 63 = 9223372036854775808 := rfl

theorem two_pow_64 : Nat.pow 2 64 = 18446744073709551616 := rfl

theorem int_two_pow_64 : Int.pow 2 64 = 18446744073709551616 := rfl

/-- Below `2^63` a count reads as itself. -/
theorem signed64_of_lt {n : Nat} (small : n < Nat.pow 2 63) : signed64 n = n := by
  rw [two_pow_63] at small
  have fits : n % Nat.pow 2 64 = n := by
    rw [two_pow_64]
    exact Nat.mod_eq_of_lt (by omega)
  simp only [signed64, fits, two_pow_63, if_pos small]

/-- From `2^63` to `2^64` a count reads as the count less `2^64`. -/
theorem signed64_of_le {n : Nat} (large : Nat.pow 2 63 ≤ n) (fits : n < Nat.pow 2 64) :
    signed64 n = (n : Int) - Int.pow 2 64 := by
  have kept : n % Nat.pow 2 64 = n := Nat.mod_eq_of_lt fits
  rw [two_pow_63] at large
  simp only [signed64, kept, two_pow_63, if_neg (Nat.not_lt.mpr large)]

/-- Saturating never goes past the upper bound. -/
theorem saturate_le {lo hi : Int} (ordered : lo ≤ hi) (zero : 0 ≤ hi) (x : Float) :
    Decimal.saturate lo hi x ≤ hi := by
  unfold Decimal.saturate
  split
  · exact zero
  · split
    · split <;> omega
    · omega

theorem toUInt64Saturating_lt (x : Float) : Decimal.toUInt64Saturating x < Nat.pow 2 64 := by
  have bound : Decimal.saturate 0 (Int.pow 2 64 - 1) x ≤ Int.pow 2 64 - 1 :=
    saturate_le (by decide) (by decide) x
  rw [int_two_pow_64] at bound
  rw [two_pow_64]
  unfold Decimal.toUInt64Saturating
  rw [int_two_pow_64]
  omega

/-- The pending count is an unsigned 64-bit word, whatever the queue payload says. -/
theorem rawPending_lt (stats usage rawEvents : Json) (sync : Option Sync.StatusReport)
    (now : Time.Instant) :
    (HealthInputs.ofPayloads stats usage rawEvents sync now).signal.rawPending < Nat.pow 2 64 :=
  toUInt64Saturating_lt _

/-- The pipeline card is found by its label and shows the count read as a signed number. -/
theorem pipeline_value (inputs : HealthInputs) :
    ((HealthOverview.build inputs).cards.find? (·.label == "Pipeline health")).map (·.value) =
      some (Text.countText (signed64 inputs.signal.rawPending) ++ " pending") := by
  simp [HealthOverview.build, overviewCards]

/-- The pipeline card's value for any payloads: the pending count's grouped digits while it
is below `2^63`, and from there a minus sign and the digits of `2^64` less the count. -/
theorem pipeline_value_wraps (stats usage rawEvents : Json) (sync : Option Sync.StatusReport)
    (now : Time.Instant) :
    let inputs := HealthInputs.ofPayloads stats usage rawEvents sync now
    let value := ((HealthOverview.build inputs).cards.find? (·.label == "Pipeline health")).map
      (·.value)
    inputs.signal.rawPending < Nat.pow 2 64 ∧
      (inputs.signal.rawPending < Nat.pow 2 63 →
        value = some (Text.countText inputs.signal.rawPending ++ " pending")) ∧
      (Nat.pow 2 63 ≤ inputs.signal.rawPending →
        value = some ("-" ++ Text.groupThousands (Nat.pow 2 64 - inputs.signal.rawPending) ++
          " pending")) := by
  intro inputs value
  have fits : inputs.signal.rawPending < Nat.pow 2 64 :=
    rawPending_lt stats usage rawEvents sync now
  have shown : value = some (Text.countText (signed64 inputs.signal.rawPending) ++ " pending") :=
    pipeline_value inputs
  refine ⟨fits, fun small => ?_, fun large => ?_⟩
  · rw [shown, signed64_of_lt small]
  · rw [shown, signed64_of_le large fits]
    -- the count less `2^64` is negative, and its magnitude is `2^64` less the count
    rw [two_pow_64] at fits
    have negative : (inputs.signal.rawPending : Int) - Int.pow 2 64 < 0 := by
      rw [int_two_pow_64]
      omega
    have magnitude : ((inputs.signal.rawPending : Int) - Int.pow 2 64).natAbs =
        Nat.pow 2 64 - inputs.signal.rawPending := by
      rw [int_two_pow_64, two_pow_64]
      omega
    simp only [Text.countText, if_pos negative, magnitude]

/-- A queue reporting `10^19` pending events: the count is read exactly, and the card shows
`2^64` less it, with a minus sign. -/
theorem pending_ten_quintillion_shown_negative :
    let inputs := HealthInputs.ofPayloads .null .null
      (Json.obj [("pending", Json.nat 10000000000000000000)]) none ⟨20148, 43200, 0⟩
    inputs.signal.rawPending = 10000000000000000000 ∧
      ((HealthOverview.build inputs).cards.find? (·.label == "Pipeline health")).map (·.value) =
        some "-8,446,744,073,709,551,616 pending" := by
  intro inputs
  have read : inputs.signal.rawPending = 10000000000000000000 := by decide
  refine ⟨read, ?_⟩
  rw [pipeline_value, read, signed64_of_le (by decide) (by decide)]
  decide

end MemoryDashboard.Health
