import MemoryDashboard.Proofs.Json.Cursor

/-! # Reading numbers within a text

The number reader looks at the characters of a number and at the one character after it, and no
further. So a number that reads alone, to the end of its text, reads the same with any text after
it that cannot continue a number (`EndsNumber`: a comma, a closing bracket, the end), and stops
right before that text (`readNumber_frame`). The argument follows the reader function by function:
each one, run on the text alone, gives a result that it gives again on the text followed by the
tail, stopping at the same place before the tail (`Framed`).

Whole numbers need no such premise: the decimal text of a number that fits the unsigned word is
read back as that number, unsigned or negative (`readNumber_whole`, with `wholeNumber_natural` and
`wholeNumber_negative`).
-/

namespace MemoryDashboard.Json.Read

/-- A text that cannot continue a number: empty, or starting with a character that is no digit,
point or exponent letter. -/
def EndsNumber (tail : List Char) : Prop :=
  ∀ ch ∈ tail.head?, ch.isDigit = false ∧ ch ≠ '.' ∧ ch ≠ 'e' ∧ ch ≠ 'E'

/-- A read from `c` that stopped at `c₁`, done again from a cursor at the same text with `tail`
after it, stopped at `c₁'`: before the same tail, and within the text. -/
structure Framed (tail : List Char) (c c₁ c₁' : Cursor) : Prop where
  shifted : c₁'.rest = c₁.rest ++ tail
  within : c₁.rest <:+ c.rest

theorem Framed.refl {tail : List Char} {c c' : Cursor} (shifted : c'.rest = c.rest ++ tail) :
    Framed tail c c c' :=
  ⟨shifted, List.suffix_refl _⟩

theorem Framed.advance {tail : List Char} {c c₁ c₁' : Cursor} {ch : Char} {r : List Char}
    (h : c.rest = ch :: r) (framed : Framed tail c.advance c₁ c₁') : Framed tail c c₁ c₁' :=
  ⟨framed.shifted, framed.within.trans (by simp [h])⟩

theorem Framed.after {tail : List Char} {c c₂ c₂' c₁ c₁' : Cursor}
    (inner : Framed tail c c₂ c₂') (outer : Framed tail c₂ c₁ c₁') : Framed tail c c₁ c₁' :=
  ⟨outer.shifted, outer.within.trans inner.within⟩

/-! ### The digit loops -/

section Loops

variable {tail : List Char}

theorem skipDigits_stop {c : Cursor} (stop : ∀ ch ∈ c.rest.head?, ch.isDigit = false) :
    skipDigits c = c := by
  rw [skipDigits]
  split
  · rfl
  · next ch _ h => simp_all

theorem skipDigits_digit {c : Cursor} {ch : Char} {r : List Char} (h : c.rest = ch :: r)
    (digit : ch.isDigit = true) : skipDigits c = skipDigits c.advance := by
  rw [skipDigits]
  split
  · simp_all
  · next ch' _ h' =>
      rw [h] at h'
      cases h'
      simp [digit]

theorem skipDigits_frame (ends : EndsNumber tail) : ∀ {c c' : Cursor},
    c'.rest = c.rest ++ tail → Framed tail c (skipDigits c) (skipDigits c') := by
  intro c
  generalize hr : c.rest = r
  induction r generalizing c with
  | nil =>
      intro c' shifted
      have framed : Framed tail c c c' := Framed.refl (by rw [hr]; exact shifted)
      rw [List.nil_append] at shifted
      rw [skipDigits_stop (c := c) (by simp [hr]),
        skipDigits_stop (fun ch mem => (ends ch (shifted ▸ mem)).1)]
      exact framed
  | cons ch r ih =>
      intro c' shifted
      have framed : Framed tail c c c' := Framed.refl (by rw [hr]; exact shifted)
      rw [List.cons_append] at shifted
      by_cases digit : ch.isDigit = true
      · rw [skipDigits_digit hr digit, skipDigits_digit shifted digit]
        exact (ih (c := c.advance) (by simp [hr]) (by simp [shifted])).advance hr
      · rw [skipDigits_stop (c := c) (by simp [hr, digit]),
          skipDigits_stop (c := c') (by simp [shifted, digit])]
        exact framed

theorem exponentDigits_stop {c : Cursor} (exp : Nat)
    (stop : ∀ ch ∈ c.rest.head?, ch.isDigit = false) :
    exponentDigits exp c = (exp, false, c) := by
  rw [exponentDigits]
  split
  · rfl
  · next ch _ h => simp_all

theorem exponentDigits_digit {c : Cursor} {ch : Char} {r : List Char} (exp : Nat) (h : c.rest = ch :: r)
    (digit : ch.isDigit = true) :
    exponentDigits exp c =
      if overflows exp (ch.toNat - '0'.toNat) exponentMax.toNat then (exp, true, c.advance)
      else exponentDigits (exp * 10 + (ch.toNat - '0'.toNat)) c.advance := by
  rw [exponentDigits]
  split
  · simp_all
  · next ch' _ h' =>
      rw [h] at h'
      cases h'
      simp [digit]

theorem exponentDigits_frame (ends : EndsNumber tail) :
    ∀ {c c' c₁ : Cursor} {exp exp₁ : Nat} {overflowed : Bool},
    exponentDigits exp c = (exp₁, overflowed, c₁) → c'.rest = c.rest ++ tail →
      ∃ c₁', exponentDigits exp c' = (exp₁, overflowed, c₁') ∧ Framed tail c c₁ c₁' := by
  intro c
  generalize hr : c.rest = r
  induction r generalizing c with
  | nil =>
      intro c' c₁ exp exp₁ overflowed read shifted
      rw [exponentDigits_stop exp (by simp [hr])] at read
      cases read
      have framed : Framed tail c c c' := Framed.refl (by rw [hr]; exact shifted)
      rw [List.nil_append] at shifted
      exact ⟨c', exponentDigits_stop exp (fun ch mem => (ends ch (shifted ▸ mem)).1), framed⟩
  | cons ch r ih =>
      intro c' c₁ exp exp₁ overflowed read shifted
      have framed : Framed tail c c c' := Framed.refl (by rw [hr]; exact shifted)
      rw [List.cons_append] at shifted
      by_cases digit : ch.isDigit = true
      · rw [exponentDigits_digit exp hr digit] at read
        rw [exponentDigits_digit exp shifted digit]
        split at read
        · cases read
          exact ⟨c'.advance, by rw [if_pos ‹_›], ⟨by simp [shifted, hr], by simp [hr]⟩⟩
        · rw [if_neg ‹_›]
          obtain ⟨c₁', step, framed⟩ :=
            ih (c := c.advance) (by simp [hr]) read
            (show c'.advance.rest = r ++ tail by simp [shifted])
          exact ⟨c₁', step, framed.advance hr⟩
      · rw [exponentDigits_stop (c := c) exp (by simp [hr, digit])] at read
        cases read
        exact ⟨c', exponentDigits_stop exp (by simp [shifted, digit]), framed⟩

theorem fractionDigits_stop {c : Cursor} (significand count : Nat)
    (stop : ∀ ch ∈ c.rest.head?, ch.isDigit = false) :
    fractionDigits significand count c = (significand, count, false, c) := by
  rw [fractionDigits]
  split
  · rfl
  · next ch _ h => simp_all

theorem fractionDigits_digit {c : Cursor} {ch : Char} {r : List Char} (significand count : Nat)
    (h : c.rest = ch :: r) (digit : ch.isDigit = true) :
    fractionDigits significand count c =
      if overflows significand (ch.toNat - '0'.toNat) wordMax then (significand, count, true, c)
      else fractionDigits (significand * 10 + (ch.toNat - '0'.toNat)) (count + 1) c.advance := by
  rw [fractionDigits]
  split
  · simp_all
  · next ch' _ h' =>
      rw [h] at h'
      cases h'
      simp [digit]

theorem fractionDigits_frame (ends : EndsNumber tail) :
    ∀ {c c' c₁ : Cursor} {significand count significand₁ count₁ : Nat} {overflowed : Bool},
    fractionDigits significand count c = (significand₁, count₁, overflowed, c₁) →
      c'.rest = c.rest ++ tail →
      ∃ c₁', fractionDigits significand count c' = (significand₁, count₁, overflowed, c₁') ∧
        Framed tail c c₁ c₁' := by
  intro c
  generalize hr : c.rest = r
  induction r generalizing c with
  | nil =>
      intro c' c₁ significand count significand₁ count₁ overflowed read shifted
      rw [fractionDigits_stop significand count (by simp [hr])] at read
      cases read
      have framed : Framed tail c c c' := Framed.refl (by rw [hr]; exact shifted)
      rw [List.nil_append] at shifted
      exact ⟨c', fractionDigits_stop significand count (fun ch mem => (ends ch (shifted ▸ mem)).1),
        framed⟩
  | cons ch r ih =>
      intro c' c₁ significand count significand₁ count₁ overflowed read shifted
      have framed : Framed tail c c c' := Framed.refl (by rw [hr]; exact shifted)
      rw [List.cons_append] at shifted
      by_cases digit : ch.isDigit = true
      · rw [fractionDigits_digit significand count hr digit] at read
        rw [fractionDigits_digit significand count shifted digit]
        split at read
        · cases read
          exact ⟨c', by rw [if_pos ‹_›], framed⟩
        · rw [if_neg ‹_›]
          obtain ⟨c₁', step, framed⟩ :=
            ih (c := c.advance) (by simp [hr]) read
            (show c'.advance.rest = r ++ tail by simp [shifted])
          exact ⟨c₁', step, framed.advance hr⟩
      · rw [fractionDigits_stop (c := c) significand count (by simp [hr, digit])] at read
        cases read
        exact ⟨c', fractionDigits_stop significand count (by simp [shifted, digit]), framed⟩

theorem extraDigits_stop {c : Cursor} (count : Nat)
    (stop : ∀ ch ∈ c.rest.head?, ch.isDigit = false) :
    extraDigits count c = (count, c) := by
  rw [extraDigits]
  split
  · rfl
  · next ch _ h => simp_all

theorem extraDigits_digit {c : Cursor} {ch : Char} {r : List Char} (count : Nat) (h : c.rest = ch :: r)
    (digit : ch.isDigit = true) : extraDigits count c = extraDigits (count + 1) c.advance := by
  rw [extraDigits]
  split
  · simp_all
  · next ch' _ h' =>
      rw [h] at h'
      cases h'
      simp [digit]

theorem extraDigits_frame (ends : EndsNumber tail) : ∀ {c c' c₁ : Cursor} {count count₁ : Nat},
    extraDigits count c = (count₁, c₁) → c'.rest = c.rest ++ tail →
      ∃ c₁', extraDigits count c' = (count₁, c₁') ∧ Framed tail c c₁ c₁' := by
  intro c
  generalize hr : c.rest = r
  induction r generalizing c with
  | nil =>
      intro c' c₁ count count₁ read shifted
      rw [extraDigits_stop count (by simp [hr])] at read
      cases read
      have framed : Framed tail c c c' := Framed.refl (by rw [hr]; exact shifted)
      rw [List.nil_append] at shifted
      exact ⟨c', extraDigits_stop count (fun ch mem => (ends ch (shifted ▸ mem)).1), framed⟩
  | cons ch r ih =>
      intro c' c₁ count count₁ read shifted
      have framed : Framed tail c c c' := Framed.refl (by rw [hr]; exact shifted)
      rw [List.cons_append] at shifted
      by_cases digit : ch.isDigit = true
      · rw [extraDigits_digit count hr digit] at read
        rw [extraDigits_digit count shifted digit]
        obtain ⟨c₁', step, framed⟩ :=
          ih (c := c.advance) (by simp [hr]) read
            (show c'.advance.rest = r ++ tail by simp [shifted])
        exact ⟨c₁', step, framed.advance hr⟩
      · rw [extraDigits_stop (c := c) count (by simp [hr, digit])] at read
        cases read
        exact ⟨c', extraDigits_stop count (by simp [shifted, digit]), framed⟩

end Loops

/-! ### Fractions, exponents and the rest of a number -/

section Floats

variable {tail : List Char} {negative : Bool} {significand : Nat}

theorem shifted_cons {tail : List Char} {c c' : Cursor} {ch : Char} {r : List Char}
    (h : c.rest = ch :: r) (shifted : c'.rest = c.rest ++ tail) : c'.rest = ch :: (r ++ tail) := by
  rw [shifted, h]
  rfl

theorem readExponentDigits_frame {start : Int} {positive : Bool} {c c' c₁ : Cursor} {f : Float}
    (ends : EndsNumber tail)
    (read : readExponentDigits negative significand start positive c = .ok (f, c₁))
    (shifted : c'.rest = c.rest ++ tail) :
    ∃ c₁', readExponentDigits negative significand start positive c' = .ok (f, c₁') ∧
      Framed tail c c₁ c₁' := by
  obtain ⟨ch, r, h⟩ : ∃ ch r, c.rest = ch :: r := by
    cases h : c.rest with
    | nil => simp [readExponentDigits, h, fail] at read
    | cons ch r => exact ⟨ch, r, rfl⟩
  have h' := shifted_cons h shifted
  unfold readExponentDigits at read ⊢
  simp only [Cursor.peek?_eq, h, h', List.head?_cons] at read ⊢
  by_cases digit : ch.isDigit = true
  · simp only [digit, Bool.not_true, Bool.false_eq_true, if_false] at read ⊢
    have advanced : c'.advance.rest = c.advance.rest ++ tail := by simp [h, h']
    generalize digits : exponentDigits (ch.toNat - '0'.toNat) c.advance = run at read
    obtain ⟨exp, overflowed, c₂⟩ := run
    cases overflowed with
    | true =>
        simp only [↓reduceIte] at read
        split at read
        · simp [fail] at read
        · next inRange =>
            cases read
            obtain ⟨c₂', digits', framed₂⟩ := exponentDigits_frame ends digits advanced
            rw [digits']
            simp only [↓reduceIte, inRange]
            exact ⟨skipDigits c₂', rfl, ((Framed.refl advanced).advance h).after
              (framed₂.after (skipDigits_frame ends framed₂.shifted))⟩
    | false =>
        simp only [Bool.false_eq_true, ↓reduceIte] at read
        split at read
        · next g found =>
            cases read
            obtain ⟨c₂', digits', framed₂⟩ := exponentDigits_frame ends digits advanced
            rw [digits']
            simp only [Bool.false_eq_true, ↓reduceIte, found]
            exact ⟨c₂', rfl, ((Framed.refl advanced).advance h).after framed₂⟩
        · simp [fail] at read
  · simp [digit, fail] at read

theorem readExponent_unsigned {start : Int} {c : Cursor}
    (h : ∀ ch ∈ c.rest.head?, ch ≠ '+' ∧ ch ≠ '-') :
    readExponent negative significand start c =
      readExponentDigits negative significand start true c := by
  unfold readExponent
  split <;> simp_all

theorem readExponent_frame {start : Int} {c c' c₁ : Cursor} {f : Float} (ends : EndsNumber tail)
    (read : readExponent negative significand start c = .ok (f, c₁))
    (shifted : c'.rest = c.rest ++ tail) :
    ∃ c₁', readExponent negative significand start c' = .ok (f, c₁') ∧
      Framed tail c c₁ c₁' := by
  cases h : c.rest with
  | nil =>
      rw [readExponent_unsigned (by simp [h])] at read
      simp [readExponentDigits, h, fail] at read
  | cons ch r =>
      have h' := shifted_cons h shifted
      have advanced : c'.advance.rest = c.advance.rest ++ tail := by simp [h, h']
      by_cases plus : ch = '+'
      · subst plus
        simp only [readExponent, Cursor.peek?_eq, h, h', List.head?_cons] at read ⊢
        obtain ⟨c₁', run, framed⟩ := readExponentDigits_frame ends read advanced
        exact ⟨c₁', run, framed.advance h⟩
      by_cases minus : ch = '-'
      · subst minus
        simp only [readExponent, Cursor.peek?_eq, h, h', List.head?_cons] at read ⊢
        obtain ⟨c₁', run, framed⟩ := readExponentDigits_frame ends read advanced
        exact ⟨c₁', run, framed.advance h⟩
      rw [readExponent_unsigned (by simp [h, plus, minus])] at read
      rw [readExponent_unsigned (by simp [h', plus, minus])]
      exact readExponentDigits_frame ends read shifted

/-- What follows a text is read only where the text ends. -/
theorem head_shifted {c c' : Cursor} (ends : EndsNumber tail) (shifted : c'.rest = c.rest ++ tail)
    {P : Char → Prop} (own : ∀ ch ∈ c.rest.head?, P ch)
    (after : ∀ ch, ch.isDigit = false → ch ≠ '.' → ch ≠ 'e' → ch ≠ 'E' → P ch) :
    ∀ ch ∈ c'.rest.head?, P ch := by
  intro ch mem
  cases h : c.rest with
  | nil =>
      rw [shifted, h, List.nil_append] at mem
      obtain ⟨digit, point, e, E⟩ := ends ch mem
      exact after ch digit point e E
  | cons x r =>
      rw [shifted, h, List.cons_append, List.head?_cons, Option.mem_def, Option.some.injEq] at mem
      exact mem ▸ own x (by simp [h])

theorem finishFloat_exponent {exponent : Int} {c : Cursor}
    (h : c.rest.head? = some 'e' ∨ c.rest.head? = some 'E') :
    finishFloat negative significand exponent c =
      readExponent negative significand exponent c.advance := by
  unfold finishFloat
  rcases h with h | h <;> simp [h]

theorem finishFloat_plain {exponent : Int} {c : Cursor}
    (h : ∀ ch ∈ c.rest.head?, ch ≠ 'e' ∧ ch ≠ 'E') :
    finishFloat negative significand exponent c =
      match floatOfParts negative significand exponent with
      | some f => .ok (f, c)
      | none => fail .numberOutOfRange c.position := by
  unfold finishFloat
  split
  · simp_all
  · simp_all
  · rfl

theorem finishFloat_frame {exponent : Int} {c c' c₁ : Cursor} {f : Float} (ends : EndsNumber tail)
    (read : finishFloat negative significand exponent c = .ok (f, c₁))
    (shifted : c'.rest = c.rest ++ tail) :
    ∃ c₁', finishFloat negative significand exponent c' = .ok (f, c₁') ∧
      Framed tail c c₁ c₁' := by
  by_cases expo : c.rest.head? = some 'e' ∨ c.rest.head? = some 'E'
  · obtain ⟨ch, r, h⟩ : ∃ ch r, c.rest = ch :: r := by
      cases h : c.rest with
      | nil => simp [h] at expo
      | cons ch r => exact ⟨ch, r, rfl⟩
    have h' := shifted_cons h shifted
    rw [finishFloat_exponent expo] at read
    rw [finishFloat_exponent (by simpa [h, h'] using expo)]
    obtain ⟨c₁', run, framed⟩ := readExponent_frame ends read
      (show c'.advance.rest = c.advance.rest ++ tail by simp [h, h'])
    exact ⟨c₁', run, framed.advance h⟩
  · have plain : ∀ ch ∈ c.rest.head?, ch ≠ 'e' ∧ ch ≠ 'E' := by
      intro ch mem
      rw [Option.mem_def] at mem
      rw [mem] at expo
      simpa using expo
    rw [finishFloat_plain plain] at read
    rw [finishFloat_plain (head_shifted ends shifted plain fun _ _ _ e E => ⟨e, E⟩)]
    split at read
    · cases read
      exact ⟨c', rfl, Framed.refl shifted⟩
    · simp [fail] at read

theorem readFraction_frame {before : Int} {c c' c₁ : Cursor} {f : Float} (ends : EndsNumber tail)
    (read : readFraction negative significand before c = .ok (f, c₁))
    (shifted : c'.rest = c.rest ++ tail) :
    ∃ c₁', readFraction negative significand before c' = .ok (f, c₁') ∧
      Framed tail c c₁ c₁' := by
  unfold readFraction at read ⊢
  generalize digits : fractionDigits significand 0 c = run at read
  obtain ⟨significand₁, count, overflowed, c₂⟩ := run
  obtain ⟨c₂', digits', framed₂⟩ := fractionDigits_frame ends digits shifted
  rw [digits']
  cases overflowed with
  | true =>
      simp only [↓reduceIte] at read ⊢
      have skipped := skipDigits_frame ends framed₂.shifted
      obtain ⟨c₁', run, framed⟩ := finishFloat_frame ends read skipped.shifted
      exact ⟨c₁', run, (framed₂.after skipped).after framed⟩
  | false =>
      simp only [Bool.false_eq_true, ↓reduceIte] at read ⊢
      split at read
      · split at read <;> simp [fail] at read
      · rw [if_neg ‹_›]
        obtain ⟨c₁', run, framed⟩ := finishFloat_frame ends read framed₂.shifted
        exact ⟨c₁', run, framed₂.after framed⟩

/-- Reading a float into a number. -/
theorem map_float_eq_ok {r : Except ReadError (Float × Cursor)} {x : Number} {c₁ : Cursor}
    (h : r.map (fun (f, c) => (Number.float f, c)) = .ok (x, c₁)) :
    ∃ f, r = .ok (f, c₁) ∧ x = .float f := by
  cases r with
  | error e => simp [Except.map] at h
  | ok p =>
      obtain ⟨f, c⟩ := p
      simp only [Except.map, Except.ok.injEq, Prod.mk.injEq] at h
      obtain ⟨rfl, rfl⟩ := h
      exact ⟨f, rfl, rfl⟩

theorem readScaled_frame {c c' c₁ : Cursor} {f : Float} (ends : EndsNumber tail)
    (read : readScaled negative significand c = .ok (f, c₁)) (shifted : c'.rest = c.rest ++ tail) :
    ∃ c₁', readScaled negative significand c' = .ok (f, c₁') ∧ Framed tail c c₁ c₁' := by
  unfold readScaled at read ⊢
  generalize digits : extraDigits 0 c = run at read
  obtain ⟨extra, c₂⟩ := run
  obtain ⟨c₂', digits', framed₂⟩ := extraDigits_frame ends digits shifted
  rw [digits']
  simp only [Cursor.peek?_eq] at read ⊢
  by_cases point : c₂.rest.head? = some '.'
  · obtain ⟨r, h⟩ := List.head?_eq_some_iff.mp point
    have h' := shifted_cons h framed₂.shifted
    simp only [h, h', List.head?_cons] at read ⊢
    obtain ⟨c₁', run, framed⟩ :=
      readFraction_frame ends read
        (show c₂'.advance.rest = c₂.advance.rest ++ tail by simp [h, h'])
    exact ⟨c₁', run, framed₂.after (framed.advance h)⟩
  · have notPoint : ∀ ch ∈ c₂.rest.head?, ch ≠ '.' := by
      intro ch mem
      rintro rfl
      exact point mem
    split at read
    · next found => exact absurd found point
    · obtain ⟨c₁', run, framed⟩ := finishFloat_frame ends read framed₂.shifted
      refine ⟨c₁', ?_, framed₂.after framed⟩
      split
      · next found =>
          exact absurd rfl (head_shifted ends framed₂.shifted notPoint (fun _ _ p _ _ => p) '.' found)
      · exact run

theorem finishNumber_point {c : Cursor} (h : c.rest.head? = some '.') :
    finishNumber negative significand c =
      (readFraction negative significand 0 c.advance).map fun (f, c) => (.float f, c) := by
  unfold finishNumber
  simp [h]

theorem finishNumber_exponent {c : Cursor} (h : c.rest.head? = some 'e' ∨ c.rest.head? = some 'E') :
    finishNumber negative significand c =
      (readExponent negative significand 0 c.advance).map fun (f, c) => (.float f, c) := by
  unfold finishNumber
  rcases h with h | h <;> simp [h]

theorem finishNumber_whole {c : Cursor}
    (h : ∀ ch ∈ c.rest.head?, ch ≠ '.' ∧ ch ≠ 'e' ∧ ch ≠ 'E') :
    finishNumber negative significand c = .ok (wholeNumber negative significand, c) := by
  unfold finishNumber
  split <;> simp_all

theorem finishNumber_frame {c c' c₁ : Cursor} {x : Number} (ends : EndsNumber tail)
    (read : finishNumber negative significand c = .ok (x, c₁)) (shifted : c'.rest = c.rest ++ tail) :
    ∃ c₁', finishNumber negative significand c' = .ok (x, c₁') ∧ Framed tail c c₁ c₁' := by
  by_cases point : c.rest.head? = some '.'
  · obtain ⟨r, h⟩ := List.head?_eq_some_iff.mp point
    have h' := shifted_cons h shifted
    rw [finishNumber_point point] at read
    obtain ⟨f, run, rfl⟩ := map_float_eq_ok read
    obtain ⟨c₁', run', framed⟩ := readFraction_frame ends run
      (show c'.advance.rest = c.advance.rest ++ tail by simp [h, h'])
    refine ⟨c₁', ?_, framed.advance h⟩
    rw [finishNumber_point (by simp [h']), run']
    rfl
  by_cases expo : c.rest.head? = some 'e' ∨ c.rest.head? = some 'E'
  · obtain ⟨ch, r, h⟩ : ∃ ch r, c.rest = ch :: r := by
      cases h : c.rest with
      | nil => simp [h] at expo
      | cons ch r => exact ⟨ch, r, rfl⟩
    have h' := shifted_cons h shifted
    rw [finishNumber_exponent expo] at read
    obtain ⟨f, run, rfl⟩ := map_float_eq_ok read
    obtain ⟨c₁', run', framed⟩ := readExponent_frame ends run
      (show c'.advance.rest = c.advance.rest ++ tail by simp [h, h'])
    refine ⟨c₁', ?_, framed.advance h⟩
    rw [finishNumber_exponent (by simpa [h, h'] using expo), run']
    rfl
  · have whole : ∀ ch ∈ c.rest.head?, ch ≠ '.' ∧ ch ≠ 'e' ∧ ch ≠ 'E' := by
      intro ch mem
      rw [Option.mem_def] at mem
      rw [mem] at point expo
      simp only [Option.some.injEq, not_or] at point expo
      exact ⟨point, expo⟩
    rw [finishNumber_whole whole] at read
    cases read
    exact ⟨c', finishNumber_whole (head_shifted ends shifted whole fun _ _ p e E => ⟨p, e, E⟩),
      Framed.refl shifted⟩

theorem integerDigits_stop {c : Cursor} (stop : ∀ ch ∈ c.rest.head?, ch.isDigit = false) :
    integerDigits negative significand c = finishNumber negative significand c := by
  rw [integerDigits]
  split
  · rfl
  · next ch _ h => simp_all

theorem integerDigits_digit {c : Cursor} {ch : Char} {r : List Char} (h : c.rest = ch :: r)
    (digit : ch.isDigit = true) :
    integerDigits negative significand c =
      if overflows significand (ch.toNat - '0'.toNat) wordMax then
        (readScaled negative significand c).map fun (f, c) => (.float f, c)
      else integerDigits negative (significand * 10 + (ch.toNat - '0'.toNat)) c.advance := by
  rw [integerDigits]
  split
  · simp_all
  · next ch' _ h' =>
      rw [h] at h'
      cases h'
      simp [digit]

theorem integerDigits_frame (ends : EndsNumber tail) :
    ∀ {c c' c₁ : Cursor} {significand : Nat} {x : Number},
    integerDigits negative significand c = .ok (x, c₁) → c'.rest = c.rest ++ tail →
      ∃ c₁', integerDigits negative significand c' = .ok (x, c₁') ∧
        Framed tail c c₁ c₁' := by
  intro c
  generalize hr : c.rest = r
  induction r generalizing c with
  | nil =>
      intro c' c₁ significand x read shifted
      have shifted₀ : c'.rest = c.rest ++ tail := by rw [hr]; exact shifted
      rw [integerDigits_stop (by simp [hr])] at read
      rw [List.nil_append] at shifted
      rw [integerDigits_stop (fun ch mem => (ends ch (shifted ▸ mem)).1)]
      exact finishNumber_frame ends read shifted₀
  | cons ch r ih =>
      intro c' c₁ significand x read shifted
      have shifted₀ : c'.rest = c.rest ++ tail := by rw [hr]; exact shifted
      rw [List.cons_append] at shifted
      by_cases digit : ch.isDigit = true
      · rw [integerDigits_digit hr digit] at read
        rw [integerDigits_digit shifted digit]
        split at read
        · rw [if_pos ‹_›]
          obtain ⟨f, run, rfl⟩ := map_float_eq_ok read
          obtain ⟨c₁', run', framed⟩ := readScaled_frame ends run shifted₀
          exact ⟨c₁', by rw [run']; rfl, framed⟩
        · rw [if_neg ‹_›]
          obtain ⟨c₁', step, framed⟩ :=
            ih (c := c.advance) (by simp [hr]) read
            (show c'.advance.rest = r ++ tail by simp [shifted])
          exact ⟨c₁', step, framed.advance hr⟩
      · rw [integerDigits_stop (c := c) (by simp [hr, digit])] at read
        rw [integerDigits_stop (c := c') (by simp [shifted, digit])]
        exact finishNumber_frame ends read shifted₀

/-- The number reader reads a number alone and followed by a text that cannot continue it
alike, and stops within the number's text. -/
theorem readNumber_frame {c c' c₁ : Cursor} {x : Number} (ends : EndsNumber tail)
    (read : readNumber negative c = .ok (x, c₁)) (shifted : c'.rest = c.rest ++ tail) :
    ∃ c₁', readNumber negative c' = .ok (x, c₁') ∧ Framed tail c c₁ c₁' := by
  cases h : c.rest with
  | nil => simp [readNumber, h, fail] at read
  | cons ch r =>
      have h' := shifted_cons h shifted
      have advanced : c'.advance.rest = c.advance.rest ++ tail := by simp [h, h']
      unfold readNumber at read ⊢
      simp only [Cursor.peek?_eq, h, h', List.head?_cons] at read ⊢
      by_cases zero : ch = '0'
      · subst zero
        simp only [↓reduceIte] at read ⊢
        -- a leading zero ends the whole part: a digit after it is an error
        have next : finishNumber negative 0 c.advance = .ok (x, c₁) ∧
            ∀ d ∈ c.advance.rest.head?, d.isDigit = false := by
          split at read
          · next d found =>
              split at read
              · simp [fail] at read
              · next notDigit => exact ⟨read, by simp_all⟩
          · next found => exact ⟨read, by simp_all⟩
        obtain ⟨c₁', run, framed⟩ := finishNumber_frame ends next.1 advanced
        refine ⟨c₁', ?_, framed.advance h⟩
        have stop := head_shifted ends advanced next.2 fun _ d _ _ _ => d
        split
        · next d found => rw [if_neg (by simpa using stop d found)]; exact run
        · exact run
      · simp only [zero, ↓reduceIte] at read ⊢
        split at read
        · next digit =>
            rw [if_pos digit]
            obtain ⟨c₁', run, framed⟩ := integerDigits_frame ends read advanced
            exact ⟨c₁', run, framed.advance h⟩
        · simp [fail] at read

end Floats


/-! ### Whole numbers -/

section Whole

variable {tail : List Char} {negative : Bool}

/-- Appending a digit passes the bound exactly when the new value is above it. -/
theorem overflows_eq {n d bound : Nat} (digit : d < 10) :
    overflows n d bound = decide (bound < n * 10 + d) := by
  unfold overflows
  by_cases above : bound < n * 10 + d
  · simp only [above, decide_true]
    simp only [Bool.and_eq_true, Bool.or_eq_true, decide_eq_true_eq]
    omega
  · simp only [above, decide_false]
    simp only [Bool.and_eq_false_iff, Bool.or_eq_false_iff, decide_eq_false_iff_not]
    omega

theorem le_ofDigitChars (ds : List Char) (s : Nat) : s ≤ Nat.ofDigitChars 10 ds s := by
  rw [Nat.ofDigitChars_eq_ofDigitChars_zero]
  have scale : 1 ≤ 10 ^ ds.length := Nat.one_le_pow _ _ (by decide)
  calc s ≤ 10 ^ ds.length * s := Nat.le_mul_of_pos_left s scale
    _ ≤ 10 ^ ds.length * s + Nat.ofDigitChars 10 ds 0 := Nat.le_add_right _ _

/-- Digits whose value fits the word are read whole, up to the first character that is no
digit. -/
theorem integerDigits_digits (negative : Bool) (stop : ∀ ch ∈ tail.head?, ch.isDigit = false) :
    ∀ {ds : List Char} {s : Nat} {c : Cursor}, (∀ ch ∈ ds, ch.isDigit = true) →
      Nat.ofDigitChars 10 ds s ≤ wordMax → c.rest = ds ++ tail →
      ∃ c', integerDigits negative s c = finishNumber negative (Nat.ofDigitChars 10 ds s) c' ∧
        c'.rest = tail := by
  intro ds
  induction ds with
  | nil =>
      intro s c _ _ h
      exact ⟨c, integerDigits_stop (by simpa [h] using stop), by simpa using h⟩
  | cons ch ds ih =>
      intro s c digits fits h
      have digit := digits ch List.mem_cons_self
      have range : 48 ≤ ch.toNat ∧ ch.toNat ≤ 57 := by
        simpa [Char.isDigit, Char.le_def, UInt32.le_iff_toNat_le] using digit
      have zeroCode : '0'.toNat = 48 := rfl
      have value : ch.toNat - '0'.toNat < 10 := by omega
      rw [Nat.ofDigitChars_cons] at fits
      have below := le_ofDigitChars ds (10 * s + (ch.toNat - '0'.toNat))
      have fitsStep : ¬wordMax < s * 10 + (ch.toNat - '0'.toNat) := by omega
      rw [integerDigits_digit h digit, overflows_eq value, if_neg (by simpa using fitsStep),
        Nat.mul_comm, Nat.ofDigitChars_cons]
      exact ih (fun x mem => digits x (List.mem_cons_of_mem _ mem)) fits (by simp [h])

/-- A positive number's decimal text does not start with a zero. -/
theorem toDigits_head_ne_zero {n : Nat} (pos : 0 < n) : (Nat.toDigits 10 n).head? ≠ some '0' := by
  induction n using Nat.strongRecOn with
  | ind n ih =>
      by_cases small : n < 10
      · have single : ∀ m < 10, 0 < m → m.digitChar ≠ '0' := by decide
        rw [Nat.toDigits_of_lt_base small]
        simpa using single n small pos
      · -- the first digit is that of the number without its last digit
        have earlier := ih (n / 10) (by omega) (by omega)
        rw [Nat.toDigits_of_base_le (by decide) (by omega), List.head?_append]
        cases first : (Nat.toDigits 10 (n / 10)).head? with
        | none => exact absurd (List.head?_eq_none_iff.mp first) Nat.toDigits_ne_nil
        | some x =>
            rw [first] at earlier
            simpa using earlier

/-- The decimal text of a number that fits the word is read as that number. -/
theorem readNumber_toDigits (negative : Bool) {n : Nat} (fits : n ≤ wordMax)
    (stop : ∀ ch ∈ tail.head?, ch.isDigit = false)
    {c : Cursor} (h : c.rest = Nat.toDigits 10 n ++ tail) :
    ∃ c', readNumber negative c = finishNumber negative n c' ∧ c'.rest = tail := by
  obtain ⟨first, rest, text⟩ := List.exists_cons_of_ne_nil (@Nat.toDigits_ne_nil n 10)
  rw [text, List.cons_append] at h
  by_cases zero : n = 0
  · subst zero
    have only : first = '0' ∧ rest = [] := by simpa [Nat.toDigits_zero] using text.symm
    obtain ⟨rfl, rfl⟩ := only
    refine ⟨c.advance, ?_, by simp [h]⟩
    unfold readNumber
    simp only [Cursor.peek?_eq, h, List.head?_cons, ↓reduceIte]
    split
    · next d found =>
        rw [if_neg (by simpa using stop d (by simpa [h] using found))]
    · rfl
  · have digits : ∀ ch ∈ first :: rest, ch.isDigit = true := fun ch mem =>
      Nat.isDigit_of_mem_toDigits (by decide) (by decide) (text ▸ mem)
    have notZero : first ≠ '0' := by
      intro same
      exact toDigits_head_ne_zero (Nat.pos_of_ne_zero zero) (by rw [text, same]; rfl)
    have value : Nat.ofDigitChars 10 rest (first.toNat - '0'.toNat) = n := by
      have := @Nat.ofDigitChars_ten_toDigits n
      rw [text, Nat.ofDigitChars_cons] at this
      simpa using this
    obtain ⟨c', run, rest'⟩ := integerDigits_digits negative stop
      (fun ch mem => digits ch (List.mem_cons_of_mem _ mem)) (value ▸ fits) (c := c.advance)
      (by simp [h])
    refine ⟨c', ?_, rest'⟩
    unfold readNumber
    simp only [Cursor.peek?_eq, h, List.head?_cons, notZero, ↓reduceIte,
      digits first List.mem_cons_self]
    rw [run, value]

/-- A whole number is read as its value: unsigned, or negative and within the signed word. -/
theorem readNumber_whole (negative : Bool) {n : Nat} (fits : n ≤ wordMax) (ends : EndsNumber tail)
    {c : Cursor} (h : c.rest = Nat.toDigits 10 n ++ tail) :
    ∃ c', readNumber negative c = .ok (wholeNumber negative n, c') ∧ c'.rest = tail := by
  obtain ⟨c', run, rest⟩ := readNumber_toDigits negative fits (fun ch mem => (ends ch mem).1) h
  refine ⟨c', ?_, rest⟩
  rw [run, finishNumber_whole]
  intro ch mem
  obtain ⟨_, point, e, E⟩ := ends ch (rest ▸ mem)
  exact ⟨point, e, E⟩

theorem wholeNumber_natural (n : Nat) : wholeNumber false n = .natural n := rfl

theorem wholeNumber_negative {n : Nat} (pos : 0 < n) (fits : n ≤ Nat.pow 2 63) :
    wholeNumber true n = .negative (-(n : Int)) := by
  simp [wholeNumber, Nat.pos_iff_ne_zero.mp pos, fits]

end Whole

end MemoryDashboard.Json.Read
