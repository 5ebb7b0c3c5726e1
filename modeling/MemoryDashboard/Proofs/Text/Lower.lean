import MemoryDashboard.Text.Case

/-! # Lowering writes no separator

Keys and change signatures join texts with `:` and `|`. Lowering a text never writes either
where the text had none: a run of the case table moves no character onto them, the one
expansion writes letters, and the final-sigma rule writes sigmas (`mem_lowerChar_separator`).
So a lowered text is free of a separator exactly when the text is (`separator_not_mem_lower`).

On ASCII text lowering is the ASCII lower case (`lower_toList_of_ascii`): the table moves only
the capitals there, and neither the expansion nor the sigma rule applies.
-/

namespace MemoryDashboard.Text

/-- The characters texts are joined with in keys and signatures. -/
def separators : List Char := [':', '|']

theorem mapByRuns_go_eq_some {table : Array CaseRun} {n m : Nat} (fuel : Nat) :
    ∀ {lo hi : Nat}, mapByRuns.go table n lo hi fuel = some m →
      ∃ r ∈ table, r.first ≤ n ∧ n ≤ r.last ∧ (n - r.first) % r.stride = 0 ∧
        m = ((n : Int) + r.delta).toNat := by
  induction fuel with
  | zero => intro lo hi found; cases found
  | succ fuel ih =>
      intro lo hi found
      unfold mapByRuns.go at found
      dsimp only at found
      -- the search either narrows to one half or stops at the run it looked at
      split at found
      · cases found
      · split at found
        · cases found
        · rename_i r looked
          split at found
          · exact ih found
          · split at found
            · exact ih found
            · split at found
              · rename_i onStride
                cases found
                exact ⟨r, Array.mem_of_getElem? looked, by omega, by omega,
                  beq_iff_eq.mp onStride, rfl⟩
              · cases found

/-- A run maps a character only inside its range and on its stride, by its distance. -/
theorem mapByRuns_eq_some {table : Array CaseRun} {n m : Nat} (found : mapByRuns table n = some m) :
    ∃ r ∈ table, r.first ≤ n ∧ n ≤ r.last ∧ (n - r.first) % r.stride = 0 ∧
      m = ((n : Int) + r.delta).toNat :=
  mapByRuns_go_eq_some 64 found

/-- No run of the lower-case table lands on the code of a separator. -/
theorem lowerRuns_miss_separators : ∀ r ∈ lowerRuns.toList, ∀ t ∈ separators.map Char.toNat,
    ¬ ((r.first : Int) ≤ t - r.delta ∧ (t : Int) - r.delta ≤ r.last) := by
  decide +kernel

theorem eq_toNat_of_ofNat_eq {n : Nat} {c : Char} (same : Char.ofNat n = c) (nonzero : c.toNat ≠ 0) :
    n = c.toNat := by
  unfold Char.ofNat at same
  by_cases valid : n.isValidChar
  · rw [dif_pos valid] at same
    subst same
    rfl
  · rw [dif_neg valid] at same
    subst same
    exact absurd rfl nonzero

/-- The one expansion of the lower-case table: the dotted capital I. -/
theorem lowerExpansions_lookup {n : Nat} {cs : List Nat}
    (expanded : lowerExpansions.lookup n = some cs) : n = 0x130 ∧ cs = [0x69, 0x307] := by
  unfold lowerExpansions at expanded
  by_cases dotted : n = 0x130
  · rw [List.lookup_cons, dotted, beq_self_eq_true] at expanded
    exact ⟨dotted, (Option.some.inj expanded).symm⟩
  · rw [List.lookup_cons, beq_false_of_ne dotted, List.lookup_nil] at expanded
    cases expanded

/-- Only a separator lowers to a separator, and to itself. -/
theorem mem_lowerChar_separator {c d : Char} (sep : c ∈ separators) (mem : c ∈ lowerChar d) :
    d = c := by
  have code : c.toNat ∈ separators.map Char.toNat := List.mem_map_of_mem sep
  have nonzero : c.toNat ≠ 0 := by
    simp only [separators, List.mem_cons, List.not_mem_nil, or_false] at sep
    rcases sep with rfl | rfl <;> decide
  unfold lowerChar at mem
  split at mem
  · -- the one expansion, of the dotted capital I, writes an `i` and a combining dot
    rename_i cs expanded
    obtain ⟨-, rfl⟩ := lowerExpansions_lookup expanded
    simp only [separators, List.mem_cons, List.not_mem_nil, or_false] at sep
    simp only [List.map_cons, List.map_nil, List.mem_cons, List.not_mem_nil, or_false] at mem
    rcases sep with rfl | rfl <;> rcases mem with same | same <;> exact absurd same (by decide)
  · split at mem
    · rename_i n mapped
      obtain ⟨r, member, low, high, -, rfl⟩ := mapByRuns_eq_some mapped
      have landed := eq_toNat_of_ofNat_eq (List.mem_singleton.mp mem).symm nonzero
      exact absurd ⟨by omega, by omega⟩ (lowerRuns_miss_separators r (Array.mem_toList_iff.mpr member) _ code)
    · exact (List.mem_singleton.mp mem).symm

theorem mem_lowerList_separator {c : Char} (sep : c ∈ separators) :
    ∀ (before cs : List Char), c ∈ lowerList before cs → c ∈ cs := by
  intro before cs
  induction cs generalizing before with
  | nil => intro mem; cases mem
  | cons d rest ih =>
      intro mem
      simp only [lowerList, List.mem_append] at mem
      rcases mem with lowered | later
      · split at lowered
        · -- a capital sigma lowers to one of the two small sigmas
          simp only [separators, List.mem_cons, List.not_mem_nil, or_false] at sep
          split at lowered <;>
            rcases sep with rfl | rfl <;> exact absurd (List.mem_singleton.mp lowered) (by decide)
        · exact (mem_lowerChar_separator sep lowered) ▸ List.mem_cons_self
      · exact List.mem_cons_of_mem _ (ih (d :: before) later)

/-- A text without a separator lowers to a text without it. -/
theorem separator_not_mem_lower {c : Char} (sep : c ∈ separators) {s : String}
    (absent : c ∉ s.toList) : c ∉ (lower s).toList := by
  rw [lower, String.toList_ofList]
  exact fun mem => absent (mem_lowerList_separator sep [] s.toList mem)

/-! ### Lowering ASCII text -/

/-- On an ASCII character lowering is the ASCII lower case. -/
theorem lowerChar_ascii {c : Char} (ascii : c.toNat < 128) : lowerChar c = [c.toLower] := by
  -- the expansion and the runs act on ASCII as the ASCII lower case, checked code by code
  have table : ∀ n < 128, lowerChar (Char.ofNat n) = [(Char.ofNat n).toLower] := by decide +kernel
  simpa only [Char.ofNat_toNat] using table c.toNat ascii

theorem lowerList_ascii : ∀ (before cs : List Char), (∀ c ∈ cs, c.toNat < 128) →
    lowerList before cs = cs.map Char.toLower
  | _, [], _ => rfl
  | before, c :: rest, ascii => by
      have head : c.toNat < 128 := ascii c List.mem_cons_self
      have notSigma : c ≠ capitalSigma := fun same => absurd head (by rw [same]; decide)
      simp only [lowerList, if_neg notSigma, lowerChar_ascii head, List.map_cons,
        List.singleton_append]
      rw [lowerList_ascii (c :: before) rest fun d mem => ascii d (List.mem_cons_of_mem _ mem)]

/-- On ASCII text lowering is the ASCII lower case. -/
theorem lower_toList_of_ascii {s : String} (ascii : ∀ c ∈ s.toList, c.toNat < 128) :
    (lower s).toList = s.toList.map Char.toLower := by
  rw [lower, String.toList_ofList, lowerList_ascii [] s.toList ascii]

/-- ASCII text in lower case lowers to itself. -/
theorem lower_eq_self {s : String} (plain : ∀ c ∈ s.toList, c.toNat < 128 ∧ c.toLower = c) :
    lower s = s := by
  rw [← String.toList_inj, lower_toList_of_ascii fun c mem => (plain c mem).1,
    List.map_congr_left fun c mem => (plain c mem).2, List.map_id']

end MemoryDashboard.Text
