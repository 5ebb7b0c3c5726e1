import MemoryDashboard.Text.Label
import Mathlib.Data.List.Basic

/-! # Thousands separators

Counts are written with their digits in groups of three from the right. The loop that writes
them walks the digits from the left and puts a comma before every digit but the first that has a
multiple of three digits from it to the end (`digitWithComma`). So the leading group holds one
to three digits and every later group three (`flatMap_digitWithComma`), and dropping the commas
gives the digits back (`groupThousands_without_commas`).

Main statement: a count is written as a minus sign exactly when it is negative, then the digits of
its magnitude grouped so, and without its commas it is the count's decimal text
(`countText_grouped`). The magnitude of the least 64-bit integer is no special case: it is a
natural number like any other.
-/

namespace MemoryDashboard.Text

/-- What the grouping loop writes for the digit at index `i` of `len` digits: a comma before it
when it is not the first and a multiple of three digits, itself included, stand from it to the end. -/
def digitWithComma (len : Nat) (p : Char × Nat) : List Char :=
  if p.2 > 0 && (len - p.2) % 3 == 0 then [',', p.1] else [p.1]

theorem digitWithComma_comma (len i : Nat) (c : Char) (after : 0 < i)
    (aligned : (len - i) % 3 = 0) : digitWithComma len (c, i) = [',', c] := by
  simp [digitWithComma, after, aligned]

theorem digitWithComma_plain (len i : Nat) (c : Char) (unaligned : i = 0 ∨ (len - i) % 3 ≠ 0) :
    digitWithComma len (c, i) = [c] := by
  unfold digitWithComma
  rcases unaligned with first | unaligned
  · simp [first]
  · simp [unaligned]

theorem groupThousands_toList (n : Nat) :
    (groupThousands n).toList =
      ((Nat.toDigits 10 n).zipIdx).flatMap (digitWithComma (Nat.toDigits 10 n).length) := by
  have digits : (toString n).toList = Nat.toDigits 10 n := by simp
  have loop : ∀ (len : Nat) (acc : List Char) (p : Char × Nat),
      (if (p.2 > 0 && (len - p.2) % 3 == 0) = true then acc ++ [',', p.1] else acc ++ [p.1]) =
        acc ++ digitWithComma len p := by
    intro len acc p
    unfold digitWithComma
    split <;> rfl
  simp only [groupThousands, String.toList_ofList, digits, loop]
  rw [List.flatMap_eq_foldl]

/-- Joining groups by commas writes the first group, then each later group after a comma. -/
theorem intercalate_comma (first : List Char) :
    ∀ groups : List (List Char),
      [','].intercalate (first :: groups) = first ++ groups.flatMap (',' :: ·)
  | [] => by simp
  | g :: groups => by
      rw [List.intercalate_cons_cons, intercalate_comma g groups, List.flatMap_cons]
      simp

/-- The leading one to three digits get no comma. -/
theorem flatMap_leading {first : List Char} {len : Nat} (filled : 1 ≤ first.length)
    (short : first.length ≤ 3) (aligned : (len - first.length) % 3 = 0)
    (within : first.length ≤ len) :
    (first.zipIdx).flatMap (digitWithComma len) = first := by
  match first, filled, short with
  | [a], _, _ => simp [digitWithComma_plain len 0 a (.inl rfl)]
  | [a, b], _, _ =>
      simp only [List.length_cons, List.length_nil] at aligned within
      simp [digitWithComma_plain len 0 a (.inl rfl), digitWithComma_plain len 1 b (.inr (by omega))]
  | [a, b, c], _, _ =>
      simp only [List.length_cons, List.length_nil] at aligned within
      simp [digitWithComma_plain len 0 a (.inl rfl), digitWithComma_plain len 1 b (.inr (by omega)),
        digitWithComma_plain len 2 c (.inr (by omega))]

/-- After the leading group, the digits come in threes, each group after a comma. -/
theorem flatMap_threes : ∀ (m : Nat) (rest : List Char) (start : Nat), rest.length = 3 * m →
    0 < start → ∃ groups : List (List Char), (∀ g ∈ groups, g.length = 3) ∧
      groups.flatten = rest ∧
      (rest.zipIdx start).flatMap (digitWithComma (start + rest.length)) =
        groups.flatMap (',' :: ·)
  | 0, rest, _, sized, _ => by
      obtain rfl : rest = [] := List.length_eq_zero_iff.mp (by omega)
      exact ⟨[], by simp, rfl, rfl⟩
  | m + 1, a :: b :: c :: rest, start, sized, after => by
      have sized' : rest.length = 3 * m := by simp only [List.length_cons] at sized; omega
      obtain ⟨groups, threes, flat, written⟩ := flatMap_threes m rest (start + 3) sized' (by omega)
      refine ⟨[a, b, c] :: groups, ?_, by simp [flat], ?_⟩
      · intro g member
        rcases List.mem_cons.mp member with rfl | later
        · rfl
        · exact threes g later
      · -- of the next three digits only the first has a multiple of three digits from it on
        have total : start + (a :: b :: c :: rest).length = start + 3 + rest.length := by
          simp only [List.length_cons]
          omega
        rw [total, List.zipIdx_cons, List.zipIdx_cons, List.zipIdx_cons, List.flatMap_cons,
          List.flatMap_cons, List.flatMap_cons, digitWithComma_comma _ start a after (by omega),
          digitWithComma_plain (start + 3 + rest.length) (start + 1) b (.inr (by omega)),
          digitWithComma_plain (start + 3 + rest.length) (start + 1 + 1) c (.inr (by omega)),
          written]
        simp
  | m + 1, [], _, sized, _ => by simp only [List.length_nil] at sized; omega
  | m + 1, [_], _, sized, _ => by simp only [List.length_cons, List.length_nil] at sized; omega
  | m + 1, [_, _], _, sized, _ => by simp only [List.length_cons, List.length_nil] at sized; omega

/-- Nonempty digits grouped by the loop. -/
theorem flatMap_digitWithComma {ds : List Char} (nonempty : ds ≠ []) :
    ∃ first rest, 1 ≤ first.length ∧ first.length ≤ 3 ∧ (∀ g ∈ rest, g.length = 3) ∧
      (first :: rest).flatten = ds ∧
      (ds.zipIdx).flatMap (digitWithComma ds.length) = [','].intercalate (first :: rest) := by
  have filled : 0 < ds.length := List.length_pos_iff.mpr nonempty
  generalize hk : (ds.length + 2) % 3 + 1 = k
  have lead : (ds.take k).length = k := by rw [List.length_take]; omega
  have aligned : (ds.drop k).length = 3 * ((ds.length - k) / 3) := by rw [List.length_drop]; omega
  obtain ⟨groups, threes, flat, written⟩ :=
    flatMap_threes _ (ds.drop k) (ds.take k).length aligned (by omega)
  refine ⟨ds.take k, groups, by omega, by omega, threes, by simp [flat], ?_⟩
  have total : (ds.take k).length + (ds.drop k).length = ds.length := by
    rw [List.length_take, List.length_drop]; omega
  have split : ds.zipIdx = (ds.take k).zipIdx ++ (ds.drop k).zipIdx (ds.take k).length := by
    conv => lhs; rw [← List.take_append_drop k ds]
    rw [List.zipIdx_append, Nat.zero_add]
  have leading : ((ds.take k).zipIdx).flatMap (digitWithComma ds.length) = ds.take k :=
    flatMap_leading (by omega) (by omega) (by rw [lead]; omega) (List.length_take_le' k ds)
  rw [split, List.flatMap_append, intercalate_comma, ← written, total, leading]

/-- No decimal digit is a comma. -/
theorem comma_not_mem_toDigits (n : Nat) : ',' ∉ Nat.toDigits 10 n := by
  intro mem
  have digit := Nat.isDigit_of_mem_toDigits (by decide) (by decide) mem
  revert digit
  decide

theorem groupThousands_without_commas (n : Nat) :
    (groupThousands n).toList.filter (· != ',') = Nat.toDigits 10 n := by
  have each : ∀ p ∈ (Nat.toDigits 10 n).zipIdx,
      (digitWithComma (Nat.toDigits 10 n).length p).filter (· != ',') = [p.1] := by
    intro p mem
    have digit : p.1 ≠ ',' := fun same =>
      comma_not_mem_toDigits n (same ▸ List.fst_mem_of_mem_zipIdx mem)
    unfold digitWithComma
    split <;> simp [digit]
  rw [groupThousands_toList, List.filter_flatMap, List.flatMap_congr each, ← List.map_eq_flatMap]
  exact List.zipIdx_map_fst 0 (Nat.toDigits 10 n)

theorem toString_toList (v : Int) :
    (toString v).toList = (if v < 0 then ['-'] else []) ++ Nat.toDigits 10 v.natAbs := by
  rw [Int.toString_eq_repr, Int.repr_eq_if]
  by_cases negative : v < 0
  · have magnitude : (-v).toNat = v.natAbs := by omega
    rw [if_neg (by omega), if_pos negative, magnitude]
    simp [Nat.toList_repr]
  · have magnitude : v.toNat = v.natAbs := by omega
    rw [if_pos (by omega), if_neg negative, magnitude]
    simp [Nat.toList_repr]

theorem countText_toList (v : Int) :
    (countText v).toList = (if v < 0 then ['-'] else []) ++ (groupThousands v.natAbs).toList := by
  unfold countText
  split <;> simp

/-- A count is written with a minus sign exactly when it is negative, then the decimal digits of
its magnitude in groups of three from the right, joined by commas, the leftmost group holding one
to three digits; without its commas it is the count's decimal text. -/
theorem countText_grouped (v : Int) :
    ((countText v).toList.head? = some '-' ↔ v < 0) ∧
      (∃ (first : List Char) (rest : List (List Char)),
        (countText v).toList = (if v < 0 then ['-'] else []) ++ [','].intercalate (first :: rest) ∧
        (first :: rest).flatten = Nat.toDigits 10 v.natAbs ∧
        1 ≤ first.length ∧ first.length ≤ 3 ∧ ∀ g ∈ rest, g.length = 3) ∧
      (countText v).toList.filter (· != ',') = (toString v).toList := by
  obtain ⟨first, rest, filled, short, threes, flat, written⟩ :=
    flatMap_digitWithComma (@Nat.toDigits_ne_nil v.natAbs 10)
  have grouped : (groupThousands v.natAbs).toList = [','].intercalate (first :: rest) := by
    rw [groupThousands_toList, written]
  refine ⟨?_, ⟨first, rest, by rw [countText_toList, grouped], flat, filled, short, threes⟩, ?_⟩
  · rw [countText_toList]
    by_cases negative : v < 0
    · simp [negative]
    · -- without a sign the text starts with the leading digit
      obtain ⟨d, ds, digits⟩ := List.exists_cons_of_ne_nil (@Nat.toDigits_ne_nil v.natAbs 10)
      have digit : d ≠ '-' := by
        intro same
        have isDigit := Nat.isDigit_of_mem_toDigits (by decide) (by decide)
          (digits ▸ List.mem_cons_self : d ∈ Nat.toDigits 10 v.natAbs)
        rw [same] at isDigit
        exact absurd isDigit (by decide)
      rw [groupThousands_toList, digits, List.zipIdx_cons, List.flatMap_cons,
        digitWithComma_plain _ 0 d (.inl rfl)]
      simp [negative, digit]
  · rw [countText_toList, toString_toList, List.filter_append, groupThousands_without_commas]
    split <;> simp

end MemoryDashboard.Text