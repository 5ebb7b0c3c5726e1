import MemoryDashboard.Decimal.Layout
import MemoryDashboard.Decimal.Read
import MemoryDashboard.Decimal.Truncate
import MemoryDashboard.Proofs.Decimal.Shortest
import MemoryDashboard.Proofs.Plugin.Version
import MemoryDashboard.Proofs.Text.Blank
import Mathlib

/-! # Reading back the text of a float

A finite nonzero float is written in JSON as an optional minus sign and then its shortest decimal,
laid out in one of five shapes (`render_json_shape`): a whole number with `.0`, digits with a
point inside, `0.` and zeros before the digits, or one digit, with or without a point after it,
and an exponent. Every shape reads back as a decimal of the same value
(`readUnsigned_render_json`): the digits before and after the point are the shortest digits, with
zeros appended for a whole number, and the place of the point or the exponent restores the power
of ten. The text starts with a digit and holds no blank, so the reader takes the sign and the
digits as they are, and the value read is the float again, since the shortest decimal lies in the
float's rounding interval (`readFloat_floatText`). The decimal text of a nonzero integer reads
back as the nearest float to it (`readFloat_intText`).
-/

namespace MemoryDashboard.Decimal

open Text

/-! ### Runs of digits -/

theorem digitsValue_eq (ds : List Char) : digitsValue ds = Nat.ofDigitChars 10 ds 0 :=
  Plugin.foldl_digits_eq_ofDigitChars ds 0

theorem digitsValue_toDigits (n : Nat) : digitsValue (Nat.toDigits 10 n) = n := by
  rw [digitsValue_eq, Nat.ofDigitChars_ten_toDigits]

theorem digitsValue_append (ds es : List Char) :
    digitsValue (ds ++ es) = digitsValue ds * 10 ^ es.length + digitsValue es := by
  rw [digitsValue_eq, digitsValue_eq, digitsValue_eq, Nat.ofDigitChars_append,
    Nat.ofDigitChars_eq_ofDigitChars_zero, Nat.mul_comm]

theorem digitsValue_zeros (n : Nat) : digitsValue (List.replicate n '0') = 0 := by
  rw [digitsValue_eq, Nat.ofDigitChars_replicate_zero, Nat.mul_zero]

theorem isDigit_of_mem_toDigits {n : Nat} {c : Char} (mem : c ∈ Nat.toDigits 10 n) :
    c.isDigit = true :=
  Nat.isDigit_of_mem_toDigits (by decide) (by decide) mem

/-- Leading digits followed by a character that is not a digit split off exactly. -/
theorem spanDigits_append {ds rest : List Char} (digits : ∀ c ∈ ds, c.isDigit = true)
    (stop : rest.head?.all (fun c => !c.isDigit) = true) : spanDigits (ds ++ rest) = (ds, rest) := by
  induction ds with
  | nil =>
    cases rest with
    | nil => rfl
    | cons c r =>
      simp only [List.head?_cons, Option.all_some, Bool.not_eq_eq_eq_not, Bool.not_true] at stop
      simp [spanDigits, stop]
  | cons c ds ih =>
    have tail := ih (fun x mem => digits x (List.mem_cons_of_mem c mem))
    simp only [spanDigits, Prod.mk.injEq] at tail
    simp [spanDigits, digits c List.mem_cons_self, tail]

theorem spanDigits_all {ds : List Char} (digits : ∀ c ∈ ds, c.isDigit = true) :
    spanDigits ds = (ds, []) := by
  simpa using @spanDigits_append ds [] digits rfl

/-! ### Exponents -/

/-- The exponent as JSON writes it: with a plus sign when it is not negative. -/
def signedText (i : Int) : String := (if 0 ≤ i then "+" else "") ++ toString i

theorem readExponent_signedText (i : Int) : readExponent (signedText i).toList = some i := by
  unfold signedText
  by_cases nonneg : 0 ≤ i
  · obtain ⟨n, rfl⟩ := Int.eq_ofNat_of_zero_le nonneg
    have text : ("+" ++ toString (n : Int)).toList = '+' :: Nat.toDigits 10 n := by
      simp [Int.repr_eq_if]
    rw [if_pos nonneg, text]
    simp [readExponent, spanDigits_all (fun _ => isDigit_of_mem_toDigits), Nat.toDigits_ne_nil,
      digitsValue_toDigits]
  · have text : ("" ++ toString i).toList = '-' :: Nat.toDigits 10 (-i).toNat := by
      simp [Int.repr_eq_if, nonneg]
    rw [if_neg nonneg, text]
    simp [readExponent, spanDigits_all (fun _ => isDigit_of_mem_toDigits), Nat.toDigits_ne_nil,
      digitsValue_toDigits]
    omega

/-! ### Reading the unsigned part -/

section Unsigned

variable {whole fraction t : List Char} {e : Int}

/-- Digits, a point and digits read as all the digits, shifted by the places after the point. -/
theorem readUnsigned_point (hw : ∀ c ∈ whole, c.isDigit = true)
    (hf : ∀ c ∈ fraction, c.isDigit = true) (nonempty : whole ≠ []) :
    readUnsigned (whole ++ '.' :: fraction) =
      some ⟨digitsValue (whole ++ fraction), -(fraction.length : Int)⟩ := by
  unfold readUnsigned
  rw [spanDigits_append hw rfl]
  simp [spanDigits_all hf, nonempty]

/-- The same with an exponent after the digits. -/
theorem readUnsigned_point_exponent (hw : ∀ c ∈ whole, c.isDigit = true)
    (hf : ∀ c ∈ fraction, c.isDigit = true) (nonempty : whole ≠ [])
    (exponent : readExponent t = some e) :
    readUnsigned (whole ++ '.' :: (fraction ++ 'e' :: t)) =
      some ⟨digitsValue (whole ++ fraction), e - fraction.length⟩ := by
  unfold readUnsigned
  rw [spanDigits_append hw rfl]
  simp [@spanDigits_append fraction ('e' :: t) hf rfl, nonempty, exponent]

/-- Digits and an exponent, with no point. -/
theorem readUnsigned_exponent (hw : ∀ c ∈ whole, c.isDigit = true) (nonempty : whole ≠ [])
    (exponent : readExponent t = some e) :
    readUnsigned (whole ++ 'e' :: t) = some ⟨digitsValue whole, e⟩ := by
  unfold readUnsigned
  rw [spanDigits_append hw rfl]
  simp [nonempty, exponent]

/-- Digits alone read as a whole number. -/
theorem readUnsigned_digits (hw : ∀ c ∈ whole, c.isDigit = true) (nonempty : whole ≠ []) :
    readUnsigned whole = some ⟨digitsValue whole, 0⟩ := by
  unfold readUnsigned
  rw [spanDigits_all hw]
  simp [nonempty]

end Unsigned

/-! ### The shapes of the JSON layout -/

/-- The five shapes of the JSON text of a decimal whose digits are `ds`: a whole number with
zeros and `.0`; a point inside the digits; `0.` and zeros before them; one digit and an exponent;
digits with a point after the first and an exponent. -/
theorem render_json_shape (d : Decimal) {ds : List Char} (hds : Nat.toDigits 10 d.digits = ds) :
    (0 ≤ d.exponent ∧
        (render Layout.json d).toList = ds ++ List.replicate d.exponent.toNat '0' ++ ['.', '0']) ∨
      (d.exponent < 0 ∧ 0 < ds.length + d.exponent ∧
        (render Layout.json d).toList =
          ds.take (ds.length + d.exponent).toNat ++ '.' :: ds.drop (ds.length + d.exponent).toNat) ∨
      (ds.length + d.exponent ≤ 0 ∧
        (render Layout.json d).toList =
          '0' :: '.' :: (List.replicate (-(ds.length + d.exponent)).toNat '0' ++ ds)) ∨
      (ds.length = 1 ∧
        (render Layout.json d).toList =
          ds ++ 'e' :: (signedText (ds.length + d.exponent - 1)).toList) ∨
      (render Layout.json d).toList =
        ds.take 1 ++ '.' :: (ds.drop 1 ++ 'e' :: (signedText (ds.length + d.exponent - 1)).toList) := by
  have text : (toString d.digits).toList = ds := by simp [hds]
  have len : ((toString d.digits).length : Int) = ds.length := by
    rw [← String.length_toList, text]
  simp only [render, Layout.json, Option.all_some, digitText, zeros, len]
  have single_iff : (toString d.digits).length = 1 ↔ ds.length = 1 := by omega
  simp only [Bool.and_eq_true, Bool.true_and, decide_eq_true_eq, single_iff]
  split_ifs with whole positional small single plus plus
  · exact .inl ⟨whole.1, by simp [hds]⟩
  · exact .inr (.inl ⟨by omega, positional.1, by simp [hds]⟩)
  · exact .inr (.inr (.inl ⟨small.1, by simp [hds]⟩))
  -- the exponent shapes, with and without a plus sign
  · exact .inr (.inr (.inr (.inl ⟨single, by rw [signedText, if_pos plus]; simp [hds]⟩)))
  · exact .inr (.inr (.inr (.inl ⟨single, by rw [signedText, if_neg plus]; simp [hds]⟩)))
  · exact .inr (.inr (.inr (.inr (by rw [signedText, if_pos plus]; simp [hds]))))
  · exact .inr (.inr (.inr (.inr (by rw [signedText, if_neg plus]; simp [hds]))))

/-- The JSON text of a decimal reads back as a decimal of the same value. -/
theorem readUnsigned_render_json (d : Decimal) :
    ∃ d', readUnsigned (render Layout.json d).toList = some d' ∧ value d' = value d := by
  set ds := Nat.toDigits 10 d.digits with hds
  have digits : ∀ c ∈ ds, c.isDigit = true := fun _ => isDigit_of_mem_toDigits
  have nonempty : ds ≠ [] := Nat.toDigits_ne_nil
  have length : 0 < ds.length := List.length_pos_iff.2 nonempty
  have all : digitsValue ds = d.digits := digitsValue_toDigits d.digits
  have zeros (n : Nat) : ∀ c ∈ List.replicate n '0', c.isDigit = true := by
    intro c mem
    rw [List.eq_of_mem_replicate mem]
    rfl
  -- in all shapes but the first the digits read are those of `d`, and the exponent is its own
  have sameDigits {e : Int} (exponent : e = d.exponent) : value ⟨d.digits, e⟩ = value d := by
    rw [exponent]
  rcases render_json_shape d hds.symm with ⟨nonneg, text⟩ | ⟨neg, pos, text⟩ | ⟨small, text⟩ |
    ⟨single, text⟩ | text <;> rw [text]
  · -- a whole number: the zeros and the `0` after the point scale the digits back
    refine ⟨_, readUnsigned_point (fun c mem => ?_) (by simp) (by simp [nonempty]), ?_⟩
    · rcases List.mem_append.1 mem with digit | zero
      exacts [digits c digit, zeros _ c zero]
    · simp only [value, digitsValue_append, digitsValue_zeros, all, List.length_replicate,
        List.length_singleton, zpow_of_nonneg _ nonneg, show digitsValue ['0'] = 0 from rfl]
      push_cast
      rw [zpow_neg, zpow_one]
      field_simp
      ring
  · -- a point inside the digits
    refine ⟨_, readUnsigned_point (fun c mem => digits c (List.mem_of_mem_take mem))
      (fun c mem => digits c (List.mem_of_mem_drop mem)) (by simp [nonempty]; omega), ?_⟩
    rw [List.take_append_drop, all]
    exact sameDigits (by simp; omega)
  · -- `0.` and zeros before the digits
    rw [← List.singleton_append]
    refine ⟨_, readUnsigned_point (by simp) (fun c mem => ?_) (by simp), ?_⟩
    · rcases List.mem_append.1 mem with zero | digit
      exacts [zeros _ c zero, digits c digit]
    · simp only [digitsValue_append, digitsValue_zeros, all, show digitsValue ['0'] = 0 from rfl,
        Nat.zero_mul, Nat.zero_add]
      exact sameDigits (by simp; omega)
  · -- one digit and an exponent
    refine ⟨_, readUnsigned_exponent digits nonempty (readExponent_signedText _), ?_⟩
    rw [all]
    exact sameDigits (by omega)
  · -- a point after the first digit and an exponent
    refine ⟨_, readUnsigned_point_exponent (fun c mem => digits c (List.mem_of_mem_take mem))
      (fun c mem => digits c (List.mem_of_mem_drop mem)) (by simp [nonempty])
      (readExponent_signedText _), ?_⟩
    rw [List.take_append_drop, all]
    exact sameDigits (by simp; omega)

/-- The characters of a layout are those of the digits, the zero, the point, the exponent letter
and the signed exponent. -/
theorem mem_render_json {d : Decimal} {c : Char} (mem : c ∈ (render Layout.json d).toList) :
    c ∈ Nat.toDigits 10 d.digits ∨ c = '0' ∨ c = '.' ∨ c = 'e' ∨
      c ∈ (signedText ((Nat.toDigits 10 d.digits).length + d.exponent - 1)).toList := by
  rcases render_json_shape d rfl with ⟨-, text⟩ | ⟨-, -, text⟩ | ⟨-, text⟩ | ⟨-, text⟩ | text <;>
    rw [text] at mem <;> simp only [List.mem_append, List.mem_cons] at mem <;>
    grind [List.mem_of_mem_take, List.mem_of_mem_drop]

/-- A layout starts with a digit. -/
theorem render_json_head (d : Decimal) :
    ∃ c, (render Layout.json d).toList.head? = some c ∧ c.isDigit = true := by
  obtain ⟨first, others, hds⟩ := List.exists_cons_of_ne_nil (@Nat.toDigits_ne_nil d.digits 10)
  have digit : first.isDigit = true := isDigit_of_mem_toDigits (hds ▸ List.mem_cons_self)
  rcases render_json_shape d hds with ⟨-, text⟩ | ⟨-, pos, text⟩ | ⟨-, text⟩ | ⟨-, text⟩ | text <;>
    rw [text]
  · exact ⟨first, by simp, digit⟩
  · refine ⟨first, ?_, digit⟩
    simp only [List.length_cons, Nat.cast_add, Nat.cast_one] at pos
    simp [List.head?_take, if_neg (show ¬(others.length : Int) + 1 + d.exponent ≤ 0 by omega)]
  · exact ⟨'0', rfl, rfl⟩
  · exact ⟨first, by simp, digit⟩
  · exact ⟨first, by simp, digit⟩

/-! ### Reading a signed text -/

/-- Lower-casing keeps a digit. -/
theorem toLower_of_isDigit {c : Char} (digit : c.isDigit = true) : c.toLower = c := by
  have range : 48 ≤ c.toNat ∧ c.toNat ≤ 57 := by
    simpa [Char.isDigit, Char.le_def, UInt32.le_iff_toNat_le] using digit
  unfold Char.toLower
  rw [dif_neg]
  simp only [ge_iff_le, not_and]
  intro upper
  simp [UInt32.le_iff_toNat_le] at upper ⊢
  omega

/-- A text that starts with a digit, after an optional minus sign, is read as a decimal and
rounded with that sign. -/
theorem readFloat_signed {text : String} (negative : Bool) {c : Char} {rest : List Char}
    (h : text.toList = c :: rest) (digit : c.isDigit = true) :
    readFloat? ((if negative then "-" else "") ++ text) =
      (readUnsigned text.toList).map (toFloat negative) := by
  -- a text that starts with a digit is none of the named values
  have notWord (l : Char) (ws : List Char) (letter : l.isDigit = false) :
      asciiLower (c :: rest) ≠ l :: ws := by
    intro same
    have first : c = l := by
      simpa [asciiLower, toLower_of_isDigit digit] using congrArg List.head? same
    rw [first, letter] at digit
    cases digit
  have words : ¬(asciiLower (c :: rest) = "inf".toList ∨ asciiLower (c :: rest) = "infinity".toList) ∧
      asciiLower (c :: rest) ≠ "nan".toList :=
    ⟨not_or.2 ⟨notWord 'i' _ rfl, notWord 'i' _ rfl⟩, notWord 'n' _ rfl⟩
  unfold readFloat?
  cases negative
  · have plus : c ≠ '+' := by rintro rfl; simp at digit
    have minus : c ≠ '-' := by rintro rfl; simp at digit
    simp only [Bool.false_eq_true, if_false, String.empty_append, h]
    split
    · next heq => simp at heq; exact absurd heq.1 plus
    · next heq => simp at heq; exact absurd heq.1 minus
    · simp only [Bool.or_eq_true, decide_eq_true_eq]
      rw [if_neg words.1, if_neg words.2]
  · have signed : ("-" ++ text).toList = '-' :: c :: rest := by simp [h]
    simp only [if_true, signed]
    simp only [Bool.or_eq_true, decide_eq_true_eq]
    rw [if_neg words.1, if_neg words.2, h]

/-! ### The text of a float -/

theorem ofFloat_negative (x : Float) : (BinaryValue.ofFloat x).negative = signOf x := by
  by_cases sub : biasedOf x = 0
  · rw [ofFloat_subnormal sub]
  · rw [ofFloat_normal sub]

/-- A finite float is written as its sign and the layout of its shortest decimal. -/
theorem floatText_json {x : Float} (finite : biasedOf x < 2047) :
    floatText Layout.json x = (if signOf x then "-" else "") ++ render Layout.json (shortest x) := by
  have notNaN : x.isNaN = false := by
    rw [isNaN_eq]
    simp
    omega
  have notInf : x.isInf = false := by
    rw [isInf_eq]
    simp
    omega
  rw [floatText, if_neg (by rw [notNaN]; exact Bool.false_ne_true),
    if_neg (by rw [notInf]; exact Bool.false_ne_true)]
  dsimp only
  rw [ofFloat_negative]
  rfl

/-- The JSON text of a finite nonzero float reads back as that float. -/
theorem readFloat_floatText {x : Float} (finite : biasedOf x < 2047)
    (nonzero : biasedOf x ≠ 0 ∨ fractionOf x ≠ 0) : readFloat? (floatText Layout.json x) = some x := by
  obtain ⟨d, read, same⟩ := readUnsigned_render_json (shortest x)
  obtain ⟨c, first, digit⟩ := render_json_head (shortest x)
  obtain ⟨rest, text⟩ := List.head?_eq_some_iff.1 first
  rw [floatText_json finite, readFloat_signed (signOf x) text digit, read, Option.map_some]
  congr 1
  -- the decimal read has the value of the shortest decimal, which lies in the float's interval
  apply toFloat_of_readsBack finite nonzero
  rw [same]
  exact shortestOfBinary_readsBack (ofFloat_finite finite nonzero)

theorem mem_signedText {i : Int} {c : Char} (mem : c ∈ (signedText i).toList) :
    c.isDigit = true ∨ c = '+' ∨ c = '-' := by
  unfold signedText at mem
  by_cases nonneg : 0 ≤ i <;> simp [nonneg, Int.repr_eq_if] at mem <;>
    rcases mem with sign | digit
  · exact .inr (.inl sign)
  · exact .inl (isDigit_of_mem_toDigits digit)
  · exact .inr (.inr sign)
  · exact .inl (isDigit_of_mem_toDigits digit)

/-- The JSON text of a finite float holds no blank. -/
theorem floatText_noBlank {x : Float} (finite : biasedOf x < 2047) :
    ∀ c ∈ (floatText Layout.json x).toList, isBlank c = false := by
  rw [floatText_json finite]
  intro c mem
  simp only [String.toList_append, List.mem_append] at mem
  rcases mem with sign | rendered
  · -- the sign
    split at sign <;> simp at sign
    rw [sign]
    decide
  · rcases mem_render_json rendered with digit | rfl | rfl | rfl | signed
    · exact isBlank_of_isDigit (isDigit_of_mem_toDigits digit)
    · decide
    · decide
    · decide
    · rcases mem_signedText signed with digit | rfl | rfl
      · exact isBlank_of_isDigit digit
      · decide
      · decide

/-! ### Whole numbers -/

/-- The decimal text of an integer reads back as the float nearest to it. -/
theorem readFloat_intText (k : Int) :
    readFloat? (toString k) = some (toFloat (decide (k < 0)) ⟨k.natAbs, 0⟩) := by
  have text : toString k = (if decide (k < 0) then "-" else "") ++ toString k.natAbs := by
    rw [Int.toString_eq_repr, Int.repr_eq_if]
    by_cases neg : k < 0
    · simp [neg, not_le.2 neg]
      omega
    · simp [neg, not_lt.1 neg]
      omega
  obtain ⟨first, others, digits⟩ := List.exists_cons_of_ne_nil (@Nat.toDigits_ne_nil k.natAbs 10)
  have written : (toString k.natAbs).toList = Nat.toDigits 10 k.natAbs := by simp
  rw [text, readFloat_signed _ (written.trans digits)
    (isDigit_of_mem_toDigits (digits ▸ List.mem_cons_self)), written,
    readUnsigned_digits (fun _ => isDigit_of_mem_toDigits) Nat.toDigits_ne_nil, digitsValue_toDigits]
  rfl

/-- The decimal text of an integer holds no blank. -/
theorem intText_noBlank (k : Int) : ∀ c ∈ (toString k).toList, isBlank c = false := by
  intro c mem
  by_cases nonneg : 0 ≤ k <;> simp [nonneg, Int.repr_eq_if] at mem
  · exact isBlank_of_isDigit (isDigit_of_mem_toDigits mem)
  · rcases mem with minus | digit
    · rw [minus]
      decide
    · exact isBlank_of_isDigit (isDigit_of_mem_toDigits digit)

/-- The whole part of a whole float is its exact magnitude. -/
theorem natAbs_truncate {x : Float} (whole : isWhole x = true) :
    ((truncate x).natAbs : ℚ) =
      (BinaryValue.ofFloat x).mantissa * 2 ^ (BinaryValue.ofFloat x).exponent := by
  unfold isWhole at whole
  unfold truncate
  set b := BinaryValue.ofFloat x
  dsimp only at whole ⊢
  have magnitude (m : Nat) : (if b.negative then -(m : Int) else m).natAbs = m := by
    split <;> simp
  rw [magnitude]
  split
  · next nonneg =>
    push_cast [Nat.pow_eq]
    rw [zpow_of_nonneg _ nonneg]
  · next neg =>
    -- below the point the mantissa is a multiple of the power of two it is divided by
    have exact : Nat.pow 2 (-b.exponent).toNat ∣ b.mantissa := by
      simp only [neg, decide_false, Bool.false_or, beq_iff_eq] at whole
      exact Nat.dvd_of_mod_eq_zero whole
    rw [Nat.cast_div exact (by simp [Nat.pow_eq])]
    push_cast [Nat.pow_eq]
    rw [div_eq_mul_inv, zpow_of_neg _ neg]

/-- A whole float with a nonzero mantissa has a negative whole part exactly when it is
negative. -/
theorem truncate_neg_iff {x : Float} (whole : isWhole x = true)
    (pos : 0 < (BinaryValue.ofFloat x).mantissa) : decide (truncate x < 0) = signOf x := by
  have positive : 0 < (truncate x).natAbs := by
    have value : (0 : ℚ) < (truncate x).natAbs := by
      rw [natAbs_truncate whole]
      positivity
    exact_mod_cast value
  -- a signed magnitude that is not zero is negative exactly when its sign says so
  have signed (negative : Bool) (m : Nat) (hm : 0 < (if negative then -(m : Int) else m).natAbs) :
      decide ((if negative then -(m : Int) else m) < 0) = negative := by
    cases negative
    · simp
    · simp at hm ⊢
      omega
  rw [← ofFloat_negative]
  exact signed _ _ positive

/-- The decimal text of the whole part of a whole, finite, nonzero float reads back as the
float. -/
theorem readFloat_truncate {x : Float} (finite : biasedOf x < 2047)
    (nonzero : biasedOf x ≠ 0 ∨ fractionOf x ≠ 0) (whole : isWhole x = true) :
    readFloat? (toString (truncate x)) = some x := by
  rw [readFloat_intText, truncate_neg_iff whole (ofFloat_finite finite nonzero).pos]
  congr 1
  apply toFloat_of_readsBack finite nonzero
  have exact : value ⟨(truncate x).natAbs, 0⟩ =
      (BinaryValue.ofFloat x).mantissa * 2 ^ (BinaryValue.ofFloat x).exponent := by
    rw [← natAbs_truncate whole]
    simp [value]
  rw [exact]
  exact ReadsBack.center _

/-! ### Exact values -/

/-- The exact value of a finite float: its sign, mantissa and power of two. -/
def exactValue (x : Float) : ℚ :=
  (if (BinaryValue.ofFloat x).negative then -1 else 1) *
    ((BinaryValue.ofFloat x).mantissa * 2 ^ (BinaryValue.ofFloat x).exponent)

theorem abs_exactValue (x : Float) :
    |exactValue x| = (BinaryValue.ofFloat x).mantissa * 2 ^ (BinaryValue.ofFloat x).exponent := by
  have magnitude : (0 : ℚ) ≤
      (BinaryValue.ofFloat x).mantissa * 2 ^ (BinaryValue.ofFloat x).exponent := by positivity
  unfold exactValue
  rw [abs_mul, abs_of_nonneg magnitude]
  split <;> simp

/-- A float is zero exactly when both its exponent and fraction fields are. -/
theorem exactValue_eq_zero_iff (x : Float) : exactValue x = 0 ↔ biasedOf x = 0 ∧ fractionOf x = 0 := by
  rw [← abs_eq_zero, abs_exactValue]
  by_cases sub : biasedOf x = 0
  · rw [ofFloat_subnormal sub]
    simp [sub]
  · rw [ofFloat_normal sub]
    simp only [sub, false_and, iff_false]
    positivity

theorem exactValue_neg_iff {x : Float} (pos : 0 < (BinaryValue.ofFloat x).mantissa) :
    exactValue x < 0 ↔ signOf x = true := by
  have magnitude : (0 : ℚ) <
      (BinaryValue.ofFloat x).mantissa * 2 ^ (BinaryValue.ofFloat x).exponent := by positivity
  unfold exactValue
  rw [ofFloat_negative]
  cases signOf x
  · simp only [Bool.false_eq_true, if_false, one_mul, iff_false, not_lt]
    exact magnitude.le
  · simp only [if_true, neg_mul, one_mul, neg_lt_zero, iff_true]
    exact magnitude

/-- The whole part of a whole float is its exact value. -/
theorem truncate_eq_exactValue {x : Float} (whole : isWhole x = true) :
    (truncate x : ℚ) = exactValue x := by
  have same : |(truncate x : ℚ)| = |exactValue x| := by
    rw [← Int.cast_abs, ← Nat.cast_natAbs, natAbs_truncate whole, abs_exactValue]
  by_cases zero : (BinaryValue.ofFloat x).mantissa = 0
  · have nothing : exactValue x = 0 := by
      rw [← abs_eq_zero, abs_exactValue, zero]
      simp
    rw [nothing] at same ⊢
    exact abs_eq_zero.1 same
  · -- a nonzero whole part has the sign of the float
    have pos := Nat.pos_of_ne_zero zero
    have sign := truncate_neg_iff whole pos
    cases negative : signOf x
    · rw [negative, decide_eq_false_iff_not, not_lt] at sign
      have nonneg : 0 ≤ exactValue x := not_lt.1 (fun neg => by simp [(exactValue_neg_iff pos).1 neg] at negative)
      rwa [abs_of_nonneg (by exact_mod_cast sign), abs_of_nonneg nonneg] at same
    · rw [negative, decide_eq_true_iff] at sign
      have neg : exactValue x < 0 := (exactValue_neg_iff pos).2 negative
      rwa [abs_of_neg (by exact_mod_cast sign), abs_of_neg neg, neg_inj] at same

/-- A float whose exact value is an integer is whole. -/
theorem isWhole_of_exactValue {x : Float} {k : Int} (integer : exactValue x = k) :
    isWhole x = true := by
  have magnitude := abs_exactValue x
  unfold isWhole
  set b := BinaryValue.ofFloat x
  simp only [Bool.or_eq_true, decide_eq_true_eq, beq_iff_eq]
  by_cases nonneg : 0 ≤ b.exponent
  · exact .inl nonneg
  · right
    -- below the point, the mantissa is the integer's magnitude times the power it is divided by
    set j := (-b.exponent).toNat
    have power : (2 : ℚ) ^ b.exponent = ((2 : ℚ) ^ j)⁻¹ := zpow_of_neg _ nonneg
    have scaled : (b.mantissa : ℚ) = k.natAbs * 2 ^ j := by
      rw [integer, power, ← Int.cast_abs, ← Nat.cast_natAbs] at magnitude
      field_simp at magnitude
      exact_mod_cast magnitude.symm
    have exact : b.mantissa = k.natAbs * Nat.pow 2 j := by
      rw [Nat.pow_eq]
      exact_mod_cast scaled
    rw [exact, Nat.mul_mod_left]

/-- The whole part of a float whose exact value is an integer is that integer. -/
theorem truncate_eq_of_exactValue {x : Float} {k : Int} (exact : exactValue x = k) : truncate x = k := by
  exact_mod_cast (truncate_eq_exactValue (isWhole_of_exactValue exact)).trans exact

/-- A float is sent as an integer exactly when its exact value is an integer of magnitude below
`2 ^ 63`. -/
theorem smallWhole_iff (x : Float) :
    (isWhole x && (truncate x).natAbs < Nat.pow 2 63) = true ↔
      ∃ k : Int, exactValue x = k ∧ k.natAbs < 2 ^ 63 := by
  simp only [Bool.and_eq_true, decide_eq_true_eq, Nat.pow_eq]
  constructor
  · rintro ⟨whole, small⟩
    exact ⟨truncate x, (truncate_eq_exactValue whole).symm, small⟩
  · rintro ⟨k, exact, small⟩
    exact ⟨isWhole_of_exactValue exact, truncate_eq_of_exactValue exact ▸ small⟩

end MemoryDashboard.Decimal
