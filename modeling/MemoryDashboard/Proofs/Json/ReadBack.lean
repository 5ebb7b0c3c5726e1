import MemoryDashboard.Proofs.Json.ReadSteps
import MemoryDashboard.Proofs.Json.Canonical
import MemoryDashboard.Proofs.Decimal.Text
import MemoryDashboard.Proofs.Text.Thousands

/-! # Reading a compact text back

The reader gives back every value from the text `compact` writes for it (`Json.read_compact`),
provided the value is one the reader can hold: containers nest no deeper than the reader allows,
object keys are in increasing order as decoded objects keep them, whole numbers fit the machine
words the reader reads them into, and each float reads back from its own shortest text
(`Json.Readable`). Floats need that hypothesis: the shortest text of a float is not always read
back as the same float.

The proof follows the text value by value. `Read.ReadsCompact depth v` says that the compact
text of `v`, followed by any tail that ends a number, is read as `v` up to exactly that tail; it
holds of scalars directly, of numbers through the frame lemmas of `readNumber`, and of containers
item by item from their items.
-/

namespace MemoryDashboard

/-- A number the reader gives back from its own text: a whole number within the unsigned word, a
negative one within the signed word, and a float whose shortest text, read alone, is read as that
float again. -/
def Number.Readable : Number → Prop
  | .natural n => n ≤ Json.Read.wordMax
  | .negative n => n < 0 ∧ n.natAbs ≤ Nat.pow 2 63
  | .float x => Json.read (Json.numberText (.float x)) = .ok (.number (.float x))

namespace Json

/-- Values the reader gives back from their compact text when containers may still open `depth`
levels deep: object keys in increasing order, as objects keep them, and numbers that read back. -/
inductive Readable : Nat → Json → Prop
  | null {depth : Nat} : Readable depth .null
  | bool {depth : Nat} (b : Bool) : Readable depth (.bool b)
  | number {depth : Nat} {n : Number} (readable : n.Readable) : Readable depth (.number n)
  | string {depth : Nat} (s : String) : Readable depth (.string s)
  | array {depth : Nat} {items : List Json} (readable : ∀ x ∈ items, Readable depth x) :
      Readable (depth + 1) (.array items)
  | object {depth : Nat} {members : Members} (ascending : (members.map Prod.fst).Pairwise (· < ·))
      (readable : ∀ p ∈ members, Readable depth p.2) : Readable (depth + 1) (.object members)

namespace Read

/-- The reader gives `v` back from its compact text followed by `tail`, with fuel for the text and
room for `depth` more levels of containers, and stops before the tail. -/
def ReadsCompact (depth : Nat) (v : Json) : Prop :=
  ∀ (fuel : Nat) (c : Cursor) (tail : List Char), EndsNumber tail → (compact v).length ≤ fuel →
    c.rest = (compact v).toList ++ tail →
    ∃ x c', readValue fuel (depth + 1) c = .ok (x, c') ∧ x.toJson = v ∧ x.firstFault? = none ∧
      c'.rest = tail

/-! ### What compact texts start with -/

theorem startsValue_of_isDigit {ch : Char} (digit : ch.isDigit = true) : StartsValue ch := by
  refine ⟨?_, ?_, ?_, ?_, ?_, ?_, ?_⟩ <;> (rintro rfl; simp at digit)

theorem finite_of_not_null {x : Float} (finite : (x.isNaN || x.isInf) = false) :
    Decimal.biasedOf x < 2047 := by
  have bounded : Decimal.biasedOf x < 2048 := Nat.mod_lt _ (by decide)
  rw [Decimal.isNaN_eq, Decimal.isInf_eq] at finite
  by_cases top : Decimal.biasedOf x = 2047
  · by_cases zero : Decimal.fractionOf x = 0 <;> simp [top, zero] at finite
  · omega

/-- The text of a finite float starts with its sign or a digit. -/
theorem floatText_head {x : Float} (finite : Decimal.biasedOf x < 2047) :
    ∃ ch r, (Decimal.floatText Decimal.Layout.json x).toList = ch :: r ∧
      (ch = '-' ∨ ch.isDigit = true) := by
  obtain ⟨ch, first, digit⟩ := Decimal.render_json_head (Decimal.shortest x)
  obtain ⟨r, text⟩ := List.head?_eq_some_iff.mp first
  rw [Decimal.floatText_json finite]
  cases Decimal.signOf x with
  | true =>
      exact ⟨'-', (Decimal.render Decimal.Layout.json (Decimal.shortest x)).toList, by simp, .inl rfl⟩
  | false => exact ⟨ch, r, by simpa using text, .inr digit⟩

theorem numberText_finite {x : Float} (finite : (x.isNaN || x.isInf) = false) :
    numberText (.float x) = Decimal.floatText Decimal.Layout.json x := by
  simp only [numberText, finite, Bool.false_eq_true, if_false]

theorem numberText_null {x : Float} (notFinite : ¬(x.isNaN || x.isInf) = false) :
    numberText (.float x) = "null" := by
  simp only [numberText, Bool.not_eq_false] at notFinite ⊢
  rw [if_pos notFinite]

theorem numberText_head (n : Number) :
    ∃ ch r, (numberText n).toList = ch :: r ∧ StartsValue ch := by
  have minus : StartsValue '-' := by unfold StartsValue; decide
  cases n with
  | natural n =>
      obtain ⟨ch, r, text⟩ := List.exists_cons_of_ne_nil (@Nat.toDigits_ne_nil n 10)
      refine ⟨ch, r, by simpa [numberText, Nat.toList_repr] using text, startsValue_of_isDigit ?_⟩
      exact Nat.isDigit_of_mem_toDigits (by decide) (by decide) (text ▸ List.mem_cons_self)
  | negative n =>
      obtain ⟨ch, r, text⟩ := List.exists_cons_of_ne_nil (@Nat.toDigits_ne_nil n.natAbs 10)
      have digit : ch.isDigit = true :=
        Nat.isDigit_of_mem_toDigits (by decide) (by decide) (text ▸ List.mem_cons_self)
      have written : (numberText (.negative n)).toList =
          (if n < 0 then ['-'] else []) ++ Nat.toDigits 10 n.natAbs := Text.toString_toList n
      by_cases below : n < 0
      · exact ⟨'-', Nat.toDigits 10 n.natAbs, by simp [written, below], minus⟩
      · exact ⟨ch, r, by simp [written, below, text], startsValue_of_isDigit digit⟩
  | float x =>
      by_cases finite : (x.isNaN || x.isInf) = false
      · obtain ⟨ch, r, text, sign⟩ := floatText_head (finite_of_not_null finite)
        refine ⟨ch, r, by rw [numberText_finite finite]; exact text, ?_⟩
        rcases sign with rfl | digit
        · exact minus
        · exact startsValue_of_isDigit digit
      · exact ⟨'n', "ull".toList, by rw [numberText_null finite]; rfl, by unfold StartsValue; decide⟩

theorem compact_head (v : Json) : ∃ ch r, (compact v).toList = ch :: r ∧ StartsValue ch := by
  cases v with
  | null => exact ⟨'n', "ull".toList, rfl, by unfold StartsValue; decide⟩
  | bool b =>
      cases b with
      | true => exact ⟨'t', "rue".toList, rfl, by unfold StartsValue; decide⟩
      | false => exact ⟨'f', "alse".toList, rfl, by unfold StartsValue; decide⟩
  | number n => simpa only [compact] using numberText_head n
  | string s =>
      exact ⟨'"', s.toList.flatMap (fun ch => (escapeChar ch).toList) ++ ['"'],
        by rw [compact, quote_toList], by unfold StartsValue; decide⟩
  | array items =>
      exact ⟨'[', (compactItems items).toList ++ [']'], compact_array_toList items,
        by unfold StartsValue; decide⟩
  | object members =>
      exact ⟨'{', (compactMembers members).toList ++ ['}'], compact_object_toList members,
        by unfold StartsValue; decide⟩

/-- Enough fuel for a nonempty text is some fuel and one more. -/
theorem fuel_succ {v : Json} {fuel : Nat} (enough : (compact v).length ≤ fuel) : ∃ f, fuel = f + 1 := by
  obtain ⟨ch, r, text, -⟩ := compact_head v
  have : 0 < (compact v).length := by
    rw [← String.length_toList, text]
    simp
  exact ⟨fuel - 1, by omega⟩

/-! ### Scalars -/

theorem readsCompact_null {depth : Nat} : ReadsCompact depth .null := by
  intro fuel c tail _ enough h
  obtain ⟨f, rfl⟩ := fuel_succ enough
  obtain ⟨c₁, word, rest⟩ := readWord_prefix (c := c.advance)
    (show c.advance.rest = ['u', 'l', 'l'] ++ tail by simp [h, compact])
  exact ⟨_, c₁, readValue_null (show c.rest = 'n' :: (['u', 'l', 'l'] ++ tail) by simp [h, compact])
    word, rfl, rfl, rest⟩

theorem readsCompact_bool {depth : Nat} (b : Bool) : ReadsCompact depth (.bool b) := by
  intro fuel c tail _ enough h
  obtain ⟨f, rfl⟩ := fuel_succ enough
  cases b with
  | true =>
      obtain ⟨c₁, word, rest⟩ := readWord_prefix (c := c.advance)
        (show c.advance.rest = ['r', 'u', 'e'] ++ tail by simp [h, compact])
      exact ⟨_, c₁, readValue_true (show c.rest = 't' :: (['r', 'u', 'e'] ++ tail) by
        simp [h, compact]) word, rfl, rfl, rest⟩
  | false =>
      obtain ⟨c₁, word, rest⟩ := readWord_prefix (c := c.advance)
        (show c.advance.rest = ['a', 'l', 's', 'e'] ++ tail by simp [h, compact])
      exact ⟨_, c₁, readValue_false (show c.rest = 'f' :: (['a', 'l', 's', 'e'] ++ tail) by
        simp [h, compact]) word, rfl, rfl, rest⟩

theorem readsCompact_string {depth : Nat} (s : String) : ReadsCompact depth (.string s) := by
  intro fuel c tail _ enough h
  obtain ⟨f, rfl⟩ := fuel_succ enough
  rw [compact, quote_toList, List.cons_append, List.append_assoc] at h
  obtain ⟨c₁, body, rest⟩ := readStringBody_quoted s.toList [] (c := c.advance)
    (show c.advance.rest = _ ++ '"' :: tail by simp [h])
  simp only [List.reverse_nil, List.nil_append, String.ofList_toList] at body
  exact ⟨_, c₁, readValue_string h body, rfl, rfl, rest⟩

/-- What the reader gives back with room for the nesting the reader allows is what reading the
whole text gives. -/
theorem read_of_readsCompact {v : Json} (reads : ReadsCompact 127 v) : read (compact v) = .ok v := by
  obtain ⟨x, c', run, value, fault, rest⟩ := reads (3 * (compact v).length + 8)
    (Cursor.ofString (compact v)) [] (by simp [EndsNumber]) (by omega) (by simp [Cursor.ofString])
  have finished : c'.finish = .ok () := by
    simp [Cursor.finish, skipBlank_of_head (c := c') (by simp [rest]), rest]
  unfold read readLocated readPrefix
  rw [run]
  simp [fault, finished, Except.map, value]

section Numbers

variable {fuel depth : Nat} {c c₁ : Cursor} {r : List Char}

theorem readsCompact_natural {n : Nat} (fits : n ≤ wordMax) :
    ReadsCompact depth (.number (.natural n)) := by
  intro fuel c tail ends enough h
  obtain ⟨f, rfl⟩ := fuel_succ enough
  have text : (compact (.number (.natural n))).toList = Nat.toDigits 10 n := by
    simp [compact, numberText, Nat.toList_repr]
  rw [text] at h
  obtain ⟨c₁, run, rest⟩ := readNumber_whole false fits ends h
  obtain ⟨ch, r, digits⟩ := List.exists_cons_of_ne_nil (@Nat.toDigits_ne_nil n 10)
  have digit : ch.isDigit = true :=
    Nat.isDigit_of_mem_toDigits (by decide) (by decide) (digits ▸ List.mem_cons_self)
  rw [digits] at h
  exact ⟨_, c₁, readValue_digit h digit run, rfl, rfl, rest⟩

theorem readsCompact_negative {n : Int} (below : n < 0) (fits : n.natAbs ≤ Nat.pow 2 63) :
    ReadsCompact depth (.number (.negative n)) := by
  intro fuel c tail ends enough h
  obtain ⟨f, rfl⟩ := fuel_succ enough
  have text : (compact (.number (.negative n))).toList = '-' :: Nat.toDigits 10 n.natAbs := by
    simp only [compact, numberText]
    rw [Text.toString_toList, if_pos below]
    rfl
  rw [text, List.cons_append] at h
  have inWord : n.natAbs ≤ wordMax := le_trans fits (by decide)
  obtain ⟨c₁, run, rest⟩ :=
    readNumber_whole true inWord ends (show c.advance.rest = Nat.toDigits 10 n.natAbs ++ tail by simp [h])
  have value : wholeNumber true n.natAbs = .negative n := by
    rw [wholeNumber_negative (by omega) fits]
    congr 1
    omega
  rw [value] at run
  exact ⟨_, c₁, readValue_minus h run, rfl, rfl, rest⟩

/-- A number is read from its sign or its first digit. -/
theorem readValue_number_inv {ch : Char} {x : Located} (h : c.rest = ch :: r)
    (start : ch = '-' ∨ ch.isDigit = true) (read : readValue (fuel + 1) depth c = .ok (x, c₁)) :
    ∃ n, readNumber (decide (ch = '-')) (if ch = '-' then c.advance else c) = .ok (n, c₁) ∧
      x = .scalar (.number n) (some c.position) (some c₁.position) := by
  rcases start with rfl | digit
  · simp only [decide_true, if_true]
    cases number : readNumber true c.advance with
    | error e =>
        rw [readValue, skipBlank_of_head (by simp [h])] at read
        simp [h, number, Except.map] at read
    | ok p =>
        obtain ⟨n, c₂⟩ := p
        rw [readValue_minus h number] at read
        cases read
        exact ⟨n, rfl, rfl⟩
  · have notMinus : ch ≠ '-' := by rintro rfl; simp at digit
    simp only [notMinus, decide_false, if_false]
    cases number : readNumber false c with
    | error e =>
        have letters : ch ≠ 'n' ∧ ch ≠ 't' ∧ ch ≠ 'f' ∧ ch ≠ '"' ∧ ch ≠ '[' ∧ ch ≠ '{' := by
          refine ⟨?_, ?_, ?_, ?_, ?_, ?_⟩ <;> (rintro rfl; simp at digit)
        have starts := startsValue_of_isDigit digit
        rw [readValue, skipBlank_of_head (by simp [h, starts.1, starts.2.1, starts.2.2.1,
          starts.2.2.2.1])] at read
        simp [h, number, Except.map, letters, digit] at read
    | ok p =>
        obtain ⟨n, c₂⟩ := p
        rw [readValue_digit h digit number] at read
        cases read
        exact ⟨n, rfl, rfl⟩

/-- A number read from its sign or its first digit gives a value. -/
theorem readValue_number {ch : Char} {n : Number} (h : c.rest = ch :: r)
    (start : ch = '-' ∨ ch.isDigit = true)
    (read : readNumber (decide (ch = '-')) (if ch = '-' then c.advance else c) = .ok (n, c₁)) :
    readValue (fuel + 1) depth c =
      .ok (.scalar (.number n) (some c.position) (some c₁.position), c₁) := by
  rcases start with rfl | digit
  · exact readValue_minus h (by simpa using read)
  · have notMinus : ch ≠ '-' := by rintro rfl; simp at digit
    exact readValue_digit h digit (by simpa [notMinus] using read)

/-- A whole text read as a value: the value read first, with nothing wrong in it, and only blanks
after it. -/
theorem read_eq_ok {text : String} {v : Json} (h : read text = .ok v) :
    ∃ x c₀, readPrefix text = .ok (x, c₀) ∧ x.firstFault? = none ∧ c₀.finish = .ok () ∧
      x.toJson = v := by
  unfold read readLocated at h
  split at h
  · simp [Except.map] at h
  · next x c₀ prefixRead =>
      split at h
      · simp [Except.map] at h
      · next fault =>
          cases finished : c₀.finish with
          | error e => simp [finished, Except.map] at h
          | ok u => exact ⟨x, c₀, prefixRead, fault, finished, by simpa [finished, Except.map] using h⟩

/-- Where only blanks may follow, a text without blanks has nothing left. -/
theorem rest_nil_of_finish (finished : c.finish = .ok ())
    (noBlank : ∀ y ∈ c.rest, y ≠ ' ' ∧ y ≠ '\n' ∧ y ≠ '\t' ∧ y ≠ '\r') : c.rest = [] := by
  cases h : c.rest with
  | nil => rfl
  | cons y r =>
      have skipped : skipBlank c = c := skipBlank_of_head (by simpa [h] using noBlank y (by simp [h]))
      simp [Cursor.finish, skipped, h] at finished

theorem readsCompact_float {x : Float}
    (readable : read (numberText (.float x)) = .ok (.number (.float x))) :
    ReadsCompact depth (.number (.float x)) := by
  intro fuel c tail ends enough h
  obtain ⟨f, rfl⟩ := fuel_succ enough
  -- a float written `null` reads back as null, not as itself
  have finite : (x.isNaN || x.isInf) = false := by
    by_contra notFinite
    rw [numberText_null notFinite, show "null" = compact .null from rfl,
      read_of_readsCompact readsCompact_null] at readable
    cases readable
  have noBlank := Decimal.floatText_noBlank (finite_of_not_null finite)
  obtain ⟨ch, r, head, start⟩ := floatText_head (finite_of_not_null finite)
  rw [numberText_finite finite] at readable
  -- the text read alone is read as a number up to its end
  obtain ⟨loc, c₀, prefixRead, -, finished, value⟩ := read_eq_ok readable
  obtain ⟨n, numberRead, rfl⟩ :=
    readValue_number_inv (show (Cursor.ofString _).rest = ch :: r from head) start prefixRead
  cases value
  -- read again before the tail, it stops at the same place
  have h' : c.rest = ch :: (r ++ tail) := by
    rw [h, compact, numberText_finite finite, head]
    rfl
  obtain ⟨c₁, numberRead', framed⟩ := readNumber_frame ends numberRead
    (show (if ch = '-' then c.advance else c).rest =
        (if ch = '-' then (Cursor.ofString _).advance else Cursor.ofString _).rest ++ tail by
      split <;> simp [h', Cursor.ofString, head])
  have atEnd : c₀.rest = [] := by
    apply rest_nil_of_finish finished
    intro y mem
    have inText : y ∈ (Decimal.floatText Decimal.Layout.json x).toList := by
      have within := framed.within
      split at within
      · exact (within.trans (by simp [Cursor.ofString, head])).subset mem
      · exact (within.trans (by simp [Cursor.ofString])).subset mem
    have notBlank := noBlank y inText
    refine ⟨?_, ?_, ?_, ?_⟩ <;> (rintro rfl; simp [Text.isBlank] at notBlank)
  refine ⟨_, c₁, readValue_number h' start numberRead', rfl, rfl, ?_⟩
  rw [framed.shifted, atEnd, List.nil_append]

end Numbers

/-! ### Arrays and objects -/

/-- After a value in a container comes a comma or the closing bracket, which ends a number. -/
theorem endsNumber_separated {α : Type} (f : α → List Char) (xs : List α) (close : Char)
    (closing : close.isDigit = false ∧ close ≠ '.' ∧ close ≠ 'e' ∧ close ≠ 'E') (tail : List Char) :
    EndsNumber (xs.flatMap (fun x => ',' :: f x) ++ close :: tail) := by
  cases xs with
  | nil => simpa [EndsNumber] using closing
  | cons x xs => simp [EndsNumber]

/-- A value of a container read before the items that follow it, each after a comma, and the
closing bracket: it stops at the comma. -/
theorem ReadsCompact.separated {depth : Nat} {v : Json} (reads : ReadsCompact depth v) {α : Type}
    (f : α → List Char) (xs : List α) (close : Char)
    (closing : close.isDigit = false ∧ close ≠ '.' ∧ close ≠ 'e' ∧ close ≠ 'E') (fuel : Nat)
    (tail : List Char) {c : Cursor} (enough : (compact v).toList.length ≤ fuel)
    (h : c.rest = (compact v).toList ++ (xs.flatMap (fun x => ',' :: f x) ++ close :: tail)) :
    ∃ x c', readValue fuel (depth + 1) c = .ok (x, c') ∧ x.toJson = v ∧ x.firstFault? = none ∧
      c'.rest = xs.flatMap (fun x => ',' :: f x) ++ close :: tail :=
  reads fuel c _ (endsNumber_separated f xs close closing tail)
    (by rw [← String.length_toList]; exact enough) h

section Items

variable {depth : Nat}

theorem readItems_rest {ys : List Json} (each : ∀ y ∈ ys, ReadsCompact depth y) :
    ∀ (fuel : Nat) (acc : List Located) (c : Cursor) (tail : List Char),
      c.rest = (ys.flatMap fun y => ',' :: (compact y).toList) ++ ']' :: tail →
      (ys.flatMap fun y => ',' :: (compact y).toList).length + 1 ≤ fuel →
      ∃ xs c', readItems fuel (depth + 1) false acc c = .ok (acc.reverse ++ xs, c') ∧
        Located.itemsToJson xs = ys ∧ firstFaultOfItems xs = none ∧ c'.rest = ']' :: tail := by
  induction ys with
  | nil =>
      intro fuel acc c tail h enough
      obtain ⟨f, rfl⟩ : ∃ f, fuel = f + 1 := ⟨fuel - 1, by simp at enough; omega⟩
      exact ⟨[], c, by simpa using readItems_close false acc (by simpa using h), rfl, rfl,
        by simpa using h⟩
  | cons y ys ih =>
      intro fuel acc c tail h enough
      obtain ⟨f, rfl⟩ : ∃ f, fuel = f + 1 := ⟨fuel - 1, by simp at enough; omega⟩
      simp only [List.flatMap_cons, List.cons_append, List.append_assoc, List.length_cons,
        List.length_append] at h enough
      obtain ⟨ch, r, head, starts⟩ := compact_head y
      obtain ⟨x, c₁, run, value, fault, rest⟩ := (each y List.mem_cons_self).separated
        (fun y => (compact y).toList) ys ']' (by decide) f tail (c := c.advance) (by omega)
        (by simp [h])
      obtain ⟨xs, c', run', values, faults, close⟩ :=
        ih (fun z mem => each z (List.mem_cons_of_mem _ mem)) f (x :: acc) c₁ tail rest (by omega)
      refine ⟨x :: xs, c', ?_, by simp [Located.itemsToJson, value, values], by
        simp [firstFaultOfItems, fault, faults], close⟩
      rw [readItems_next (by rw [h, head]; rfl) starts run, run']
      simp

theorem readItems_compact {items : List Json} (each : ∀ y ∈ items, ReadsCompact depth y)
    (fuel : Nat) (c : Cursor) (tail : List Char)
    (h : c.rest = (compactItems items).toList ++ ']' :: tail)
    (enough : (compactItems items).length + 1 ≤ fuel) :
    ∃ xs c', readItems fuel (depth + 1) true [] c = .ok (xs, c') ∧
      Located.itemsToJson xs = items ∧ firstFaultOfItems xs = none ∧ c'.rest = ']' :: tail := by
  obtain ⟨f, rfl⟩ : ∃ f, fuel = f + 1 := ⟨fuel - 1, by omega⟩
  cases items with
  | nil => exact ⟨[], c, readItems_close true [] (by simpa [compactItems] using h), rfl, rfl, by
      simpa [compactItems] using h⟩
  | cons y ys =>
      rw [← String.length_toList, compactItems_toList] at enough
      rw [compactItems_toList, List.append_assoc] at h
      simp only [List.length_append] at enough
      obtain ⟨ch, r, head, starts⟩ := compact_head y
      obtain ⟨x, c₁, run, value, fault, rest⟩ := (each y List.mem_cons_self).separated
        (fun y => (compact y).toList) ys ']' (by decide) f tail (by omega) h
      obtain ⟨xs, c', run', values, faults, close⟩ := readItems_rest
        (fun z mem => each z (List.mem_cons_of_mem _ mem)) f [x] c₁ tail rest (by
          have : 0 < (compact y).toList.length := by simp [head]
          omega)
      refine ⟨x :: xs, c', ?_, by simp [Located.itemsToJson, value, values], by
        simp [firstFaultOfItems, fault, faults], close⟩
      rw [readItems_first (by rw [h, head]; rfl) starts run, run']
      simp

theorem readsCompact_array {items : List Json} (each : ∀ y ∈ items, ReadsCompact depth y) :
    ReadsCompact (depth + 1) (.array items) := by
  intro fuel c tail _ enough h
  obtain ⟨f, rfl⟩ := fuel_succ enough
  have text := compact_array_toList items
  rw [text] at h
  rw [← String.length_toList, text] at enough
  simp only [List.length_cons, List.length_append] at enough
  obtain ⟨xs, c₁, run, values, faults, close⟩ := readItems_compact each f c.advance tail
    (by simp [h]) (by rw [← String.length_toList]; omega)
  refine ⟨_, c₁.advance, readValue_array (by rw [h]; rfl) (by omega) run close, ?_, ?_, by simp [close]⟩
  · simp [Located.toJson, values]
  · simp [Located.firstFault?, faults]

end Items

section Members

variable {depth : Nat}

/-- One member read after its opening quote: the key, the colon and the value, before `tail`. -/
theorem readMember (key : String) {v : Json} (reads : ReadsCompact depth v) (fuel : Nat) (c : Cursor)
    (tail : List Char) (ends : EndsNumber tail) (enough : (compact v).length ≤ fuel)
    (h : c.rest = key.toList.flatMap (fun ch => (escapeChar ch).toList) ++
      '"' :: ':' :: ((compact v).toList ++ tail)) :
    ∃ c₂ x c₁, readStringBody [] c = .ok (key, c₂) ∧ c₂.rest = ':' :: ((compact v).toList ++ tail) ∧
      readValue fuel (depth + 1) c₂.advance = .ok (x, c₁) ∧ x.toJson = v ∧ x.firstFault? = none ∧
      c₁.rest = tail := by
  obtain ⟨c₂, keyRead, afterKey⟩ := readStringBody_quoted key.toList [] h
  simp only [List.reverse_nil, List.nil_append, String.ofList_toList] at keyRead
  obtain ⟨x, c₁, run, value, fault, rest⟩ := reads fuel c₂.advance tail ends enough (by simp [afterKey])
  exact ⟨c₂, x, c₁, keyRead, afterKey, run, value, fault, rest⟩

theorem readMembers_rest {ms : List (String × Json)} (each : ∀ p ∈ ms, ReadsCompact depth p.2) :
    ∀ (fuel : Nat) (acc : LocatedMembers) (c : Cursor) (tail : List Char),
      c.rest = (ms.flatMap fun q => ',' :: (compactMembers [q]).toList) ++ '}' :: tail →
      (ms.flatMap fun q => ',' :: (compactMembers [q]).toList).length + 1 ≤ fuel →
      ∃ xs c', readMembers fuel (depth + 1) false acc c = .ok (acc.reverse ++ xs, c') ∧
        Located.membersToJson xs = ms ∧ firstFaultOfMembers xs = none ∧ c'.rest = '}' :: tail := by
  induction ms with
  | nil =>
      intro fuel acc c tail h enough
      obtain ⟨f, rfl⟩ : ∃ f, fuel = f + 1 := ⟨fuel - 1, by simp at enough; omega⟩
      exact ⟨[], c, by simpa using readMembers_close false acc (by simpa using h), rfl, rfl,
        by simpa using h⟩
  | cons q qs ih =>
      intro fuel acc c tail h enough
      obtain ⟨k, v⟩ := q
      obtain ⟨f, rfl⟩ : ∃ f, fuel = f + 1 := ⟨fuel - 1, by simp at enough; omega⟩
      simp only [List.flatMap_cons, List.cons_append, List.append_assoc, List.length_cons,
        List.length_append, member_toList] at h enough
      have reads : ReadsCompact depth v := each (k, v) List.mem_cons_self
      obtain ⟨c₂, x, c₁, keyRead, colon, run, value, fault, rest⟩ :=
        readMember k reads f c.advance.advance _
          (endsNumber_separated (fun q => (compactMembers [q]).toList) qs '}' (by decide) tail)
          (by rw [← String.length_toList]; omega) (by simp [h])
      obtain ⟨xs, c', run', values, faults, close⟩ :=
        ih (fun p mem => each p (List.mem_cons_of_mem _ mem)) f ((k, some c₂.position, x) :: acc) c₁
          tail rest (by omega)
      refine ⟨(k, some c₂.position, x) :: xs, c', ?_, by simp [Located.membersToJson, value, values],
        by simp [firstFaultOfMembers, fault, faults], close⟩
      rw [readMembers_next (by rw [h]) keyRead colon run, run']
      simp

theorem readMembers_compact {ms : List (String × Json)} (each : ∀ p ∈ ms, ReadsCompact depth p.2)
    (fuel : Nat) (c : Cursor) (tail : List Char)
    (h : c.rest = (compactMembers ms).toList ++ '}' :: tail)
    (enough : (compactMembers ms).length + 1 ≤ fuel) :
    ∃ xs c', readMembers fuel (depth + 1) true [] c = .ok (xs, c') ∧
      Located.membersToJson xs = ms ∧ firstFaultOfMembers xs = none ∧ c'.rest = '}' :: tail := by
  obtain ⟨f, rfl⟩ : ∃ f, fuel = f + 1 := ⟨fuel - 1, by omega⟩
  cases ms with
  | nil => exact ⟨[], c, readMembers_close true [] (by simpa [compactMembers] using h), rfl, rfl, by
      simpa [compactMembers] using h⟩
  | cons q qs =>
      obtain ⟨k, v⟩ := q
      rw [← String.length_toList, compactMembers_toList] at enough
      rw [compactMembers_toList, List.append_assoc] at h
      simp only [member_toList, List.cons_append, List.append_assoc, List.length_cons,
        List.length_append] at h enough
      have reads : ReadsCompact depth v := each (k, v) List.mem_cons_self
      obtain ⟨c₂, x, c₁, keyRead, colon, run, value, fault, rest⟩ :=
        readMember k reads f c.advance _
          (endsNumber_separated (fun q => (compactMembers [q]).toList) qs '}' (by decide) tail)
          (by rw [← String.length_toList]; omega) (by simp [h])
      obtain ⟨xs, c', run', values, faults, close⟩ := readMembers_rest
        (fun p mem => each p (List.mem_cons_of_mem _ mem)) f [(k, some c₂.position, x)] c₁ tail rest
        (by omega)
      refine ⟨(k, some c₂.position, x) :: xs, c', ?_, by simp [Located.membersToJson, value, values],
        by simp [firstFaultOfMembers, fault, faults], close⟩
      rw [readMembers_first h keyRead colon run, run']
      simp

theorem readsCompact_object {members : Members} (ascending : (members.map Prod.fst).Pairwise (· < ·))
    (each : ∀ p ∈ members, ReadsCompact depth p.2) : ReadsCompact (depth + 1) (.object members) := by
  intro fuel c tail _ enough h
  obtain ⟨f, rfl⟩ := fuel_succ enough
  have text := compact_object_toList members
  rw [text] at h
  rw [← String.length_toList, text] at enough
  simp only [List.length_cons, List.length_append] at enough
  obtain ⟨xs, c₁, run, values, faults, close⟩ := readMembers_compact each f c.advance tail
    (by simp [h]) (by rw [← String.length_toList]; omega)
  refine ⟨_, c₁.advance, readValue_object (by rw [h]; rfl) (by omega) run close, ?_, ?_, by simp [close]⟩
  · simp [Located.toJson, values, Members.ofList_of_ascending ascending]
  · simp [Located.firstFault?, faults]

end Members

/-! ### Every readable value -/

theorem readsCompact_of_readable {depth : Nat} {v : Json} (readable : Readable depth v) :
    ReadsCompact depth v := by
  induction readable with
  | null => exact readsCompact_null
  | bool b => exact readsCompact_bool b
  | string s => exact readsCompact_string s
  | number readable =>
      rename_i n
      cases n with
      | natural n => exact readsCompact_natural readable
      | negative n => exact readsCompact_negative readable.1 readable.2
      | float x => exact readsCompact_float readable
  | array _ each => exact readsCompact_array each
  | object ascending _ each => exact readsCompact_object ascending each

end Read

/-- A value whose numbers read back and whose containers nest at most 127 deep is read back from
its compact text. -/
theorem read_compact {v : Json} (readable : Readable 127 v) : read (compact v) = .ok v :=
  Read.read_of_readsCompact (Read.readsCompact_of_readable readable)

end Json

end MemoryDashboard
