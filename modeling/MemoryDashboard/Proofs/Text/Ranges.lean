import MemoryDashboard.Text.Classes
import Mathlib

/-! # Binary search over sorted ranges

`inRanges` answers whether a code point lies in one of a table's ranges by halving the interval
of indices it searches. What it finds lies in a range (`inRanges_sound`). On a table whose ranges
are ordered and apart (`Sorted`) it finds every code point of every range (`inRanges_complete`):
the range holding the point stays inside the interval, and 64 halvings outlast any table of fewer
than 2^64 ranges.

The word character table is sorted, and each range of decimal digits lies inside one of its
ranges (`coveredBy_sound` checks this in one pass over both tables), so every decimal digit is a
word character (`isWordChar_of_isDecimalDigit`).
-/

namespace MemoryDashboard.Text

/-- The range `r` lies wholly before `s`: both are ordered and `r` ends before `s` begins. -/
def RangeBefore (r s : Nat × Nat) : Prop := r.1 ≤ r.2 ∧ r.2 < s.1 ∧ s.1 ≤ s.2

instance : DecidableRel RangeBefore := fun _ _ => inferInstanceAs (Decidable (_ ∧ _ ∧ _))

theorem RangeBefore.trans {r s t : Nat × Nat} (first : RangeBefore r s)
    (second : RangeBefore s t) : RangeBefore r t :=
  ⟨first.1, by have := first.2; have := second.2; omega, second.2.2⟩

instance : Trans RangeBefore RangeBefore RangeBefore := ⟨RangeBefore.trans⟩

/-- Ranges in ascending order, each ordered and ending before the next begins. -/
def Sorted (table : Array (Nat × Nat)) : Prop := table.toList.IsChain RangeBefore

instance (table : Array (Nat × Nat)) : Decidable (Sorted table) :=
  inferInstanceAs (Decidable (table.toList.IsChain RangeBefore))

theorem Sorted.before {table : Array (Nat × Nat)} (sorted : Sorted table) {i j : Nat}
    (earlier : i < j) (inTable : j < table.size) : RangeBefore table[i] table[j] := by
  have pairwise := List.isChain_iff_pairwise.mp sorted
  have apart := List.pairwise_iff_getElem.mp pairwise i j (by simp; omega) (by simpa) earlier
  simpa only [Array.getElem_toList] using apart

/-- A point of the range at `k` that lies below the range at `i` puts `k` before `i`. -/
theorem Sorted.lt_of_lt_fst {table : Array (Nat × Nat)} (sorted : Sorted table) {n k i : Nat}
    (hk : k < table.size) (hi : i < table.size) (low : table[k].1 ≤ n) (below : n < table[i].1) :
    k < i := by
  rcases Nat.lt_trichotomy k i with earlier | rfl | later
  · exact earlier
  · omega
  · have apart := sorted.before later hk
    unfold RangeBefore at apart
    omega

/-- A point of the range at `k` that lies above the range at `i` puts `k` after `i`. -/
theorem Sorted.lt_of_snd_lt {table : Array (Nat × Nat)} (sorted : Sorted table) {n k i : Nat}
    (hk : k < table.size) (hi : i < table.size) (high : n ≤ table[k].2) (above : table[i].2 < n) :
    i < k := by
  rcases Nat.lt_trichotomy i k with earlier | rfl | later
  · exact earlier
  · omega
  · have apart := sorted.before later hi
    unfold RangeBefore at apart
    omega

theorem inRanges_go_sound {table : Array (Nat × Nat)} {n : Nat} (fuel : Nat) :
    ∀ {lo hi : Nat}, inRanges.go table n lo hi fuel = true → ∃ r ∈ table, r.1 ≤ n ∧ n ≤ r.2 := by
  induction fuel with
  | zero => intro lo hi found; cases found
  | succ fuel ih =>
      intro lo hi found
      unfold inRanges.go at found
      dsimp only at found
      -- the search narrows to one half or stops at the range it looked at
      split at found
      · cases found
      · split at found
        · cases found
        · rename_i a b looked
          split at found
          · exact ih found
          · split at found
            · exact ih found
            · exact ⟨(a, b), Array.mem_of_getElem? looked, by omega, by omega⟩

/-- A code point the binary search finds lies in one of the ranges. -/
theorem inRanges_sound {table : Array (Nat × Nat)} {n : Nat} (found : inRanges table n = true) :
    ∃ r ∈ table, r.1 ≤ n ∧ n ≤ r.2 :=
  inRanges_go_sound 64 found

/-- On a sorted table the search finds a point of the range at `k` while `k` is in the interval it
searches and the fuel outlasts the halvings of that interval. -/
theorem inRanges_go_complete {table : Array (Nat × Nat)} {n k : Nat} (sorted : Sorted table)
    (hk : k < table.size) (low : table[k].1 ≤ n) (high : n ≤ table[k].2) (fuel : Nat) :
    ∀ {lo hi : Nat}, lo ≤ k → k < hi → hi ≤ table.size → hi - lo < 2 ^ fuel →
      inRanges.go table n lo hi fuel = true := by
  induction fuel with
  | zero =>
      intro lo hi fromLo belowHi _ short
      rw [Nat.pow_zero] at short
      omega
  | succ fuel ih =>
      intro lo hi fromLo belowHi fits short
      rw [Nat.pow_succ] at short
      have inTable : (lo + hi) / 2 < table.size := by omega
      unfold inRanges.go
      dsimp only
      rw [if_neg (by omega), Array.getElem?_eq_getElem inTable]
      -- the range at `k` lies on the side of the middle range the search keeps
      by_cases below : n < table[(lo + hi) / 2].1
      · have left := sorted.lt_of_lt_fst hk inTable low below
        simp only [below, ↓reduceIte]
        exact ih fromLo left (by omega) (by omega)
      · by_cases above : table[(lo + hi) / 2].2 < n
        · have right := sorted.lt_of_snd_lt hk inTable high above
          simp only [below, above, ↓reduceIte]
          exact ih right belowHi fits (by omega)
        · simp only [below, above, ↓reduceIte]

/-- On a sorted table of fewer than 2^64 ranges the search finds every point of every range. -/
theorem inRanges_complete {table : Array (Nat × Nat)} {n : Nat} (sorted : Sorted table)
    (fits : table.size < 2 ^ 64) {r : Nat × Nat} (member : r ∈ table) (low : r.1 ≤ n)
    (high : n ≤ r.2) : inRanges table n = true := by
  obtain ⟨k, hk, rfl⟩ := Array.mem_iff_getElem.mp member
  exact inRanges_go_complete sorted hk low high 64 (Nat.zero_le k) hk (Nat.le_refl _)
    (by rw [Nat.sub_zero]; exact fits)

/-- Whether every range of the first ascending list lies inside a range of the second, walking
each once: the ranges inside the first range of the second are passed over, then the search
goes on in the rest of the second. -/
def coveredBy : List (Nat × Nat) → List (Nat × Nat) → Bool
  | [], _ => true
  | _ :: _, [] => false
  | rs, w :: ws => coveredBy (rs.dropWhile fun r => w.1 ≤ r.1 && r.2 ≤ w.2) ws

theorem coveredBy_sound :
    ∀ {rs ws : List (Nat × Nat)}, coveredBy rs ws = true →
      ∀ r ∈ rs, ∃ w ∈ ws, w.1 ≤ r.1 ∧ r.2 ≤ w.2
  | [], _, _, r, member => nomatch member
  | _ :: _, [], covered, _, _ => nomatch covered
  | r₀ :: rs, w :: ws, covered, r, member => by
      -- a range is either passed over inside `w` or left for the rest of the second list
      have split : (r₀ :: rs).takeWhile (fun r => w.1 ≤ r.1 && r.2 ≤ w.2) ++
          (r₀ :: rs).dropWhile (fun r => w.1 ≤ r.1 && r.2 ≤ w.2) = r₀ :: rs :=
        List.takeWhile_append_dropWhile
      have rest : coveredBy ((r₀ :: rs).dropWhile fun r => w.1 ≤ r.1 && r.2 ≤ w.2) ws = true :=
        covered
      rw [← split, List.mem_append] at member
      rcases member with inside | later
      · have fits := List.mem_takeWhile_imp inside
        simp only [Bool.and_eq_true, decide_eq_true_eq] at fits
        exact ⟨w, List.mem_cons_self, fits⟩
      · obtain ⟨w', member', fits⟩ := coveredBy_sound rest r later
        exact ⟨w', List.mem_cons_of_mem w member', fits⟩

theorem wordRanges_sorted : Sorted wordRanges := by decide +kernel

theorem wordRanges_fit : wordRanges.size < 2 ^ 64 := by decide +kernel

theorem decimalDigitRanges_covered :
    coveredBy decimalDigitRanges.toList wordRanges.toList = true := by
  decide +kernel

theorem isWordChar_of_isDecimalDigit {c : Char} (digit : isDecimalDigit c = true) :
    isWordChar c = true := by
  obtain ⟨r, member, low, high⟩ := inRanges_sound digit
  obtain ⟨w, wordRange, below, above⟩ :=
    coveredBy_sound decimalDigitRanges_covered r (Array.mem_toList_iff.mpr member)
  exact inRanges_complete wordRanges_sorted wordRanges_fit (Array.mem_toList_iff.mp wordRange)
    (by omega) (by omega)

end MemoryDashboard.Text
