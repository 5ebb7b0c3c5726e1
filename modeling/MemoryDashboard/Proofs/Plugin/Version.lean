import MemoryDashboard.Plugin.Version
import MemoryDashboard.Proofs.Text.Blank
import Mathlib

/-! # Reading and comparing versions

A version is read from the trimmed text cut at every point. It must cut into exactly three
parts, and each part must be a non-empty run of ASCII digits whose value fits in 64 bits
(`PartOf`). So a text reads as a version exactly when, trimmed, it spells one (`Spells`,
`parse_eq_some_iff`); leading zeros are allowed, and a sign, a blank inside, an empty part or a
fourth part spell nothing. The text of any three 64-bit numbers joined by points reads back as
those numbers (`parse_render`).

Versions compare part by part, the first difference deciding (`atLeast_iff`). A text that is
not a version is at least nothing and nothing is at least it (`versionAtLeast_iff`), so on
texts that are versions the comparison is reflexive, transitive and total
(`version_reading_and_order`).
-/

namespace MemoryDashboard.Plugin

open Text

/-! ### Parts -/

/-- `ds` is a version part of value `n`: ASCII digits, at least one, of value below 2^64. -/
structure PartOf (ds : List Char) (n : Nat) : Prop where
  nonempty : ds ≠ []
  digits : ∀ c ∈ ds, c.isDigit = true
  value : Nat.ofDigitChars 10 ds 0 = n
  fits : n < 2 ^ 64

/-- Reading digits from the left is the library's value of a digit run. -/
theorem foldl_digits_eq_ofDigitChars (ds : List Char) (init : Nat) :
    ds.foldl (fun acc c => acc * 10 + (c.toNat - '0'.toNat)) init =
      Nat.ofDigitChars 10 ds init := by
  induction ds generalizing init with
  | nil => rfl
  | cons c rest ih => rw [List.foldl_cons, ih, Nat.ofDigitChars_cons, Nat.mul_comm]

theorem versionPart?_eq_some_iff {ds : List Char} {n : Nat} :
    versionPart? ds = some n ↔ PartOf ds n := by
  have limit : Nat.pow 2 64 = 2 ^ 64 := rfl
  unfold versionPart?
  dsimp only
  rw [foldl_digits_eq_ofDigitChars, limit]
  by_cases digits : ds ≠ [] ∧ ∀ c ∈ ds, c.isDigit = true
  · have shape : (ds.isEmpty || !ds.all Char.isDigit) = false := by simpa using digits
    rw [if_neg (by simp [shape])]
    by_cases fits : Nat.ofDigitChars 10 ds 0 < 2 ^ 64
    · rw [if_pos fits]
      constructor
      · rintro ⟨⟩
        exact ⟨digits.1, digits.2, rfl, fits⟩
      · intro part
        rw [part.value]
    · rw [if_neg fits]
      simp only [reduceCtorEq, false_iff]
      exact fun part => fits (part.value ▸ part.fits)
  · -- an empty part, or one with a character that is not a digit, is no part
    have shape : (ds.isEmpty || !ds.all Char.isDigit) = true := by
      simpa [List.isEmpty_iff, or_iff_not_imp_left] using digits
    rw [if_pos shape]
    simp only [reduceCtorEq, false_iff]
    exact fun part => digits ⟨part.nonempty, part.digits⟩

theorem point_not_digit : '.'.isDigit = false := by decide

theorem PartOf.point_not_mem {ds : List Char} {n : Nat} (part : PartOf ds n) : '.' ∉ ds :=
  fun mem => by simpa [point_not_digit] using part.digits '.' mem

/-! ### Reading a version -/

/-- The characters `cs` spell the version `v`: three parts joined by single points. -/
def Spells (cs : List Char) (v : Version) : Prop :=
  ∃ a b c, cs = a ++ '.' :: (b ++ '.' :: c) ∧
    PartOf a v.major ∧ PartOf b v.minor ∧ PartOf c v.patch

/-- Three pieces free of points are what cutting their join at every point gives back. -/
theorem splitOn_point_eq_three {a b c : List Char} (ha : '.' ∉ a) (hb : '.' ∉ b) (hc : '.' ∉ c) :
    (a ++ '.' :: (b ++ '.' :: c)).splitOn '.' = [a, b, c] := by
  have joined : a ++ '.' :: (b ++ '.' :: c) = ['.'].intercalate [a, b, c] := by simp
  rw [joined, List.splitOn_intercalate]
  · simp [ha, hb, hc]
  · simp

theorem parse_eq_some_iff (value : String) (v : Version) :
    Version.parse? value = some v ↔ Spells (trim value).toList v := by
  unfold Version.parse?
  constructor
  · intro read
    split at read
    case h_1 a b c cut =>
      simp only [Option.bind_eq_bind, Option.bind_eq_some_iff, Option.some.injEq] at read
      obtain ⟨x, ha, y, hb, z, hc, rfl⟩ := read
      refine ⟨a, b, c, ?_, versionPart?_eq_some_iff.1 ha, versionPart?_eq_some_iff.1 hb,
        versionPart?_eq_some_iff.1 hc⟩
      -- the pieces joined by points are the text again
      have whole : ['.'].intercalate ((trim value).toList.splitOn '.') = (trim value).toList :=
        List.intercalate_splitOn '.'
      rw [cut] at whole
      simpa using whole.symm
    case h_2 other =>
      cases read
  · rintro ⟨a, b, c, spelled, ha, hb, hc⟩
    rw [spelled, splitOn_point_eq_three ha.point_not_mem hb.point_not_mem hc.point_not_mem]
    simp [(versionPart?_eq_some_iff).2 ha, (versionPart?_eq_some_iff).2 hb,
      (versionPart?_eq_some_iff).2 hc]

/-! ### Writing a version -/

/-- The decimal text of a number below 2^64 is a part of that value. -/
theorem partOf_toDigits {n : Nat} (fits : n < 2 ^ 64) : PartOf (Nat.toDigits 10 n) n where
  nonempty := Nat.toDigits_ne_nil
  digits := fun _ mem => Nat.isDigit_of_mem_toDigits (by decide) (by decide) mem
  value := Nat.ofDigitChars_ten_toDigits
  fits := fits

/-- Three 64-bit numbers written in decimal and joined by points read back as themselves. -/
theorem parse_render (a b c : Nat) (ha : a < 2 ^ 64) (hb : b < 2 ^ 64) (hc : c < 2 ^ 64) :
    Version.parse? (toString a ++ "." ++ toString b ++ "." ++ toString c) = some ⟨a, b, c⟩ := by
  have written : (toString a ++ "." ++ toString b ++ "." ++ toString c).toList =
      Nat.toDigits 10 a ++ '.' :: (Nat.toDigits 10 b ++ '.' :: Nat.toDigits 10 c) := by
    simp
  -- digits and points are not blank, so trimming keeps the text
  have kept : trim (toString a ++ "." ++ toString b ++ "." ++ toString c) =
      toString a ++ "." ++ toString b ++ "." ++ toString c := by
    apply trim_eq_self
    rw [written]
    intro ch mem
    simp only [List.mem_append, List.mem_cons] at mem
    rcases mem with digit | point | digit | point | digit
    · exact isBlank_of_isDigit (Nat.isDigit_of_mem_toDigits (by decide) (by decide) digit)
    · subst point; decide
    · exact isBlank_of_isDigit (Nat.isDigit_of_mem_toDigits (by decide) (by decide) digit)
    · subst point; decide
    · exact isBlank_of_isDigit (Nat.isDigit_of_mem_toDigits (by decide) (by decide) digit)
  rw [parse_eq_some_iff, kept, written]
  exact ⟨_, _, _, rfl, partOf_toDigits ha, partOf_toDigits hb, partOf_toDigits hc⟩

/-! ### Comparing versions -/

/-- The three parts of a version, most significant first. -/
def Version.parts (v : Version) : List Nat := [v.major, v.minor, v.patch]

/-- The lexicographic order of parts: the first part that differs decides. -/
theorem parts_le_iff (minimum current : Version) :
    minimum.parts ≤ current.parts ↔
      minimum.major < current.major ∨ minimum.major = current.major ∧
        (minimum.minor < current.minor ∨
          minimum.minor = current.minor ∧ minimum.patch ≤ current.patch) := by
  rw [Version.parts, Version.parts, le_iff_lt_or_eq, List.cons_lt_cons_iff,
    List.cons_lt_cons_iff, List.cons_lt_cons_iff]
  simp only [List.cons.injEq, List.not_lt_nil, and_false, or_false, and_true]
  omega

/-- One version is at least another exactly when its parts are lexicographically at least the
other's. -/
theorem atLeast_iff (current minimum : Version) :
    current.atLeast minimum = true ↔ minimum.parts ≤ current.parts := by
  rw [parts_le_iff, Version.atLeast]
  -- the comparison looks at the minor part only when the major parts agree, and so on
  by_cases major : current.major = minimum.major
  · by_cases minor : current.minor = minimum.minor
    · simp [major, minor]
    · simp only [major, minor, ne_eq, not_true_eq_false, not_false_eq_true, if_true, if_false,
        decide_eq_true_eq, lt_self_iff_false, true_and, false_or]
      omega
  · simp only [major, ne_eq, not_false_eq_true, if_true, decide_eq_true_eq]
    omega

/-- The comparison of texts holds exactly when both are versions and the first is at least the
second, part by part. -/
theorem versionAtLeast_iff (current minimum : String) :
    versionAtLeast current minimum = true ↔
      ∃ c m, Version.parse? current = some c ∧ Version.parse? minimum = some m ∧
        m.parts ≤ c.parts := by
  unfold versionAtLeast
  cases hc : Version.parse? current with
  | none => simp
  | some c =>
    cases hm : Version.parse? minimum with
    | none => simp
    | some m => simp [atLeast_iff]

theorem versionAtLeast_refl {x : String} (parsed : (Version.parse? x).isSome) :
    versionAtLeast x x = true := by
  obtain ⟨v, hv⟩ := Option.isSome_iff_exists.1 parsed
  exact (versionAtLeast_iff x x).2 ⟨v, v, hv, hv, le_refl _⟩

theorem versionAtLeast_trans {x y z : String} (xy : versionAtLeast x y = true)
    (yz : versionAtLeast y z = true) : versionAtLeast x z = true := by
  obtain ⟨vx, vy, hx, hy, le_xy⟩ := (versionAtLeast_iff x y).1 xy
  obtain ⟨vy', vz, hy', hz, le_yz⟩ := (versionAtLeast_iff y z).1 yz
  -- both comparisons read `y` the same way
  have same : vy' = vy := Option.some.inj (hy'.symm.trans hy)
  subst same
  exact (versionAtLeast_iff x z).2 ⟨vx, vz, hx, hz, le_trans le_yz le_xy⟩

theorem versionAtLeast_total {x y : String} (px : (Version.parse? x).isSome)
    (py : (Version.parse? y).isSome) : versionAtLeast x y = true ∨ versionAtLeast y x = true := by
  obtain ⟨vx, hx⟩ := Option.isSome_iff_exists.1 px
  obtain ⟨vy, hy⟩ := Option.isSome_iff_exists.1 py
  rcases le_total vy.parts vx.parts with le | le
  · exact .inl ((versionAtLeast_iff x y).2 ⟨vx, vy, hx, hy, le⟩)
  · exact .inr ((versionAtLeast_iff y x).2 ⟨vy, vx, hy, hx, le⟩)

/-- A text reads as a version exactly when, trimmed, it is three parts joined by single points,
each a run of ASCII digits of value below 2^64, and it reads as nothing otherwise; three such
numbers written in decimal read back as themselves. One text is at least another exactly when
both are versions and the first is lexicographically at least the second, which makes the
comparison reflexive, transitive and total on versions. -/
theorem version_reading_and_order :
    (∀ value v, Version.parse? value = some v ↔ Spells (trim value).toList v) ∧
    (∀ value, Version.parse? value = none ↔ ∀ v, ¬ Spells (trim value).toList v) ∧
    (∀ a b c, a < 2 ^ 64 → b < 2 ^ 64 → c < 2 ^ 64 →
      Version.parse? (toString a ++ "." ++ toString b ++ "." ++ toString c) = some ⟨a, b, c⟩) ∧
    (∀ x y, versionAtLeast x y = true ↔
      ∃ c m, Version.parse? x = some c ∧ Version.parse? y = some m ∧ m.parts ≤ c.parts) ∧
    (∀ x, (Version.parse? x).isSome → versionAtLeast x x = true) ∧
    (∀ x y z, versionAtLeast x y = true → versionAtLeast y z = true →
      versionAtLeast x z = true) ∧
    (∀ x y, (Version.parse? x).isSome → (Version.parse? y).isSome →
      versionAtLeast x y = true ∨ versionAtLeast y x = true) := by
  refine ⟨parse_eq_some_iff, ?_, parse_render, versionAtLeast_iff,
    fun _ => versionAtLeast_refl, fun _ _ _ => versionAtLeast_trans,
    fun _ _ => versionAtLeast_total⟩
  intro value
  rw [Option.eq_none_iff_forall_ne_some]
  exact forall_congr' fun v => not_congr (parse_eq_some_iff value v)

end MemoryDashboard.Plugin
