import MemoryDashboard.Text.Blank
import Mathlib

/-! # Texts that trimming keeps

Trimming removes blanks at both ends only, so a text with no blank in it is its own trim
(`trim_eq_self`). The texts the dashboard writes for numbers and versions are made of ASCII
digits, points, signs and the exponent letters, none of which is blank (`isBlank_of_lt`): every
blank is a control character, the space, or far beyond ASCII.
-/

namespace MemoryDashboard.Text

/-- Every printable ASCII character after the space is not blank. -/
theorem isBlank_of_lt {c : Char} (above : 0x20 < c.toNat) (ascii : c.toNat < 0x7F) :
    isBlank c = false := by
  unfold isBlank
  simp only [Bool.or_eq_false_iff, Bool.and_eq_false_imp, decide_eq_true_eq, decide_eq_false_iff_not]
  omega

theorem isBlank_of_isDigit {c : Char} (digit : c.isDigit = true) : isBlank c = false := by
  have range : 48 ≤ c.toNat ∧ c.toNat ≤ 57 := by
    simpa [Char.isDigit, Char.le_def, UInt32.le_iff_toNat_le] using digit
  exact isBlank_of_lt (by omega) (by omega)

theorem dropWhile_blank_eq_self {cs : List Char} (noBlank : ∀ c ∈ cs, isBlank c = false) :
    cs.dropWhile isBlank = cs := by
  cases cs with
  | nil => rfl
  | cons c rest => simp [noBlank c (by simp)]

theorem trim_eq_self {s : String} (noBlank : ∀ c ∈ s.toList, isBlank c = false) : trim s = s := by
  have backwards : ∀ c ∈ s.toList.reverse, isBlank c = false := by
    simpa using noBlank
  simp [trim, dropWhile_blank_eq_self noBlank, dropWhile_blank_eq_self backwards]

end MemoryDashboard.Text
