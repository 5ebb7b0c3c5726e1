import MemoryDashboard.Proofs.Json.Compact
import MemoryDashboard.Proofs.Json.ReadNumber
import Mathlib.Tactic.SplitIfs

/-! # The reader, one step at a time

Each lemma here says what one call of the reader does when the text before it starts a certain
way: a written character of a string (plain or escaped, as `escapeChar` writes it) is read back as
that character, and a value, an array item or an object member is dispatched on its first
character. Together they let a proof follow the reader through a text it knows, as
`readNumber_frame` does for numbers.
-/

namespace MemoryDashboard.Json.Read

/-! ### Strings -/

theorem readStringBody_quote {c : Cursor} {r : List Char} (acc : List Char) (h : c.rest = '"' :: r) :
    readStringBody acc c = .ok (String.ofList acc.reverse, c.advance) := by
  rw [readStringBody]
  split
  · simp_all
  · next ch rest h' =>
      rw [h] at h'
      cases h'
      simp

theorem readStringBody_plain {c : Cursor} {ch : Char} {r : List Char} (acc : List Char)
    (h : c.rest = ch :: r) (notQuote : ch ≠ '"') (notSlash : ch ≠ '\\') (printable : ¬ch.toNat < 0x20) :
    readStringBody acc c = readStringBody (ch :: acc) c.advance := by
  rw [readStringBody]
  split
  · simp_all
  · next ch' rest h' =>
      rw [h] at h'
      cases h'
      simp only [if_neg notQuote, if_neg notSlash, if_neg printable]

theorem readStringBody_escaped {c c' : Cursor} {r : List Char} {ch : Char} (acc : List Char)
    (h : c.rest = '\\' :: r) (escape : readEscape c.advance = .ok (ch, c'))
    (shorter : c'.rest.length < c.rest.length) :
    readStringBody acc c = readStringBody (ch :: acc) c' := by
  rw [readStringBody]
  split
  · simp_all
  · next ch' rest h' =>
      rw [h] at h'
      cases h'
      simp only [escape, if_pos shorter]
      simp

theorem readHex4_digits {c : Cursor} {a b d e : Char} {r : List Char} {va vb vd ve : Nat}
    (h : c.rest = a :: b :: d :: e :: r) (ha : hexValue? a = some va) (hb : hexValue? b = some vb)
    (hd : hexValue? d = some vd) (he : hexValue? e = some ve) :
    ∃ c', readHex4 c = .ok (((va * 16 + vb) * 16 + vd) * 16 + ve, c') ∧ c'.rest = r := by
  refine ⟨c.advance.advance.advance.advance, ?_, by simp [h]⟩
  unfold readHex4
  rw [if_neg (by simp [h])]
  simp [h, ha, hb, hd, he, Except.bind]

theorem hexValue_hexDigit : ∀ n < 16, hexValue? (hexDigit n) = some n := by decide

/-- A control character written as `\u00XX` is read back. -/
theorem readEscape_unicode {c : Cursor} {r : List Char} {n : Nat} (small : n < 0x20)
    (h : c.rest = 'u' :: '0' :: '0' :: hexDigit (n / 16) :: hexDigit (n % 16) :: r) :
    ∃ c', readEscape c = .ok (Char.ofNat n, c') ∧ c'.rest = r := by
  have zero : hexValue? '0' = some 0 := by decide
  have digits : c.advance.rest = '0' :: '0' :: hexDigit (n / 16) :: hexDigit (n % 16) :: r := by
    simp [h]
  obtain ⟨c', hex, rest⟩ := readHex4_digits digits zero zero
    (hexValue_hexDigit (n / 16) (by omega)) (hexValue_hexDigit (n % 16) (by omega))
  refine ⟨c', ?_, rest⟩
  have value : ((0 * 16 + 0) * 16 + n / 16) * 16 + n % 16 = n := by omega
  rw [value] at hex
  have notSurrogate : ¬(56320 ≤ n ∧ n ≤ 57343) ∧ ¬(55296 ≤ n ∧ n ≤ 56319) := by omega
  simp [readEscape, h, hex, bind, Except.bind, notSurrogate]

/-- One written character of a string, plain or escaped, is read back as the character. -/
theorem readStringBody_escapeChar (acc : List Char) (ch : Char) {c : Cursor} {rest : List Char}
    (h : c.rest = (escapeChar ch).toList ++ rest) :
    ∃ c', readStringBody acc c = readStringBody (ch :: acc) c' ∧ c'.rest = rest := by
  -- the escapes of two characters, read by `readEscape` in one step
  have short {x : Char} (hx : c.rest = '\\' :: x :: rest)
      (decode : readEscape c.advance = .ok (ch, c.advance.advance)) :
      ∃ c', readStringBody acc c = readStringBody (ch :: acc) c' ∧ c'.rest = rest :=
    ⟨c.advance.advance, readStringBody_escaped acc hx decode
      (by simp only [Cursor.advance_rest, hx, List.tail_cons, List.length_cons]; omega), by simp [hx]⟩
  unfold escapeChar at h
  split_ifs at h with quote slash newline cr tab backspace formfeed control
  · subst quote
    exact short (x := '"') (by simpa using h) (by simp [readEscape, h])
  · subst slash
    exact short (x := '\\') (by simpa using h) (by simp [readEscape, h])
  · subst newline
    exact short (x := 'n') (by simpa using h) (by simp [readEscape, h])
  · subst cr
    exact short (x := 'r') (by simpa using h) (by simp [readEscape, h])
  · subst tab
    exact short (x := 't') (by simpa using h) (by simp [readEscape, h])
  · have same : ch = Char.ofNat 8 := by rw [← backspace, Char.ofNat_toNat]
    subst same
    exact short (x := 'b') (by simpa using h) (by simp [readEscape, h])
  · have same : ch = Char.ofNat 12 := by rw [← formfeed, Char.ofNat_toNat]
    subst same
    exact short (x := 'f') (by simpa using h) (by simp [readEscape, h])
  · have hx : c.rest = '\\' :: 'u' :: '0' :: '0' :: hexDigit (ch.toNat / 16) ::
        hexDigit (ch.toNat % 16) :: rest := by simpa using h
    obtain ⟨c', decode, rest'⟩ := readEscape_unicode (c := c.advance) (r := rest) control (by simp [hx])
    rw [Char.ofNat_toNat] at decode
    exact ⟨c', readStringBody_escaped acc hx decode
      (by simp only [rest', hx, List.length_cons]; omega), rest'⟩
  · exact ⟨c.advance, readStringBody_plain acc (by simpa using h) quote slash control,
      by simp [by simpa using h]⟩

/-- The body of a quoted string, as `quote` writes it, is read back up to its closing quote. -/
theorem readStringBody_quoted : ∀ (cs : List Char) (acc : List Char) {c : Cursor} {tail : List Char},
    c.rest = cs.flatMap (fun ch => (escapeChar ch).toList) ++ '"' :: tail →
    ∃ c', readStringBody acc c = .ok (String.ofList (acc.reverse ++ cs), c') ∧ c'.rest = tail := by
  intro cs
  induction cs with
  | nil =>
      intro acc c tail h
      exact ⟨c.advance, by simpa using readStringBody_quote acc h, by simp [h]⟩
  | cons ch cs ih =>
      intro acc c tail h
      rw [List.flatMap_cons, List.append_assoc] at h
      obtain ⟨c', step, rest⟩ := readStringBody_escapeChar acc ch h
      obtain ⟨c'', run, rest'⟩ := ih (ch :: acc) rest
      refine ⟨c'', ?_, rest'⟩
      rw [step, run]
      simp

/-! ### One value, by its first character -/

section Dispatch

variable {fuel depth : Nat} {c c₁ : Cursor} {r : List Char}

theorem readValue_null (h : c.rest = 'n' :: r) (word : readWord ['u', 'l', 'l'] c.advance = .ok c₁) :
    readValue (fuel + 1) depth c = .ok (.scalar .null (some c.position) (some c₁.position), c₁) := by
  rw [readValue, skipBlank_of_head (by simp [h])]
  simp [h, word, Except.map]

theorem readValue_true (h : c.rest = 't' :: r) (word : readWord ['r', 'u', 'e'] c.advance = .ok c₁) :
    readValue (fuel + 1) depth c =
      .ok (.scalar (.bool true) (some c.position) (some c₁.position), c₁) := by
  rw [readValue, skipBlank_of_head (by simp [h])]
  simp [h, word, Except.map]

theorem readValue_false (h : c.rest = 'f' :: r)
    (word : readWord ['a', 'l', 's', 'e'] c.advance = .ok c₁) :
    readValue (fuel + 1) depth c =
      .ok (.scalar (.bool false) (some c.position) (some c₁.position), c₁) := by
  rw [readValue, skipBlank_of_head (by simp [h])]
  simp [h, word, Except.map]

theorem readValue_string {s : String} (h : c.rest = '"' :: r)
    (body : readStringBody [] c.advance = .ok (s, c₁)) :
    readValue (fuel + 1) depth c =
      .ok (.scalar (.string s) (some c.position) (some c₁.position), c₁) := by
  rw [readValue, skipBlank_of_head (by simp [h])]
  simp [h, body, Except.map]

theorem readValue_minus {n : Number} (h : c.rest = '-' :: r)
    (number : readNumber true c.advance = .ok (n, c₁)) :
    readValue (fuel + 1) depth c =
      .ok (.scalar (.number n) (some c.position) (some c₁.position), c₁) := by
  rw [readValue, skipBlank_of_head (by simp [h])]
  simp [h, number, Except.map]

theorem readValue_digit {n : Number} {ch : Char} (h : c.rest = ch :: r) (digit : ch.isDigit = true)
    (number : readNumber false c = .ok (n, c₁)) :
    readValue (fuel + 1) depth c =
      .ok (.scalar (.number n) (some c.position) (some c₁.position), c₁) := by
  have letters : ch ≠ 'n' ∧ ch ≠ 't' ∧ ch ≠ 'f' ∧ ch ≠ '-' ∧ ch ≠ '"' ∧ ch ≠ '[' ∧ ch ≠ '{' := by
    refine ⟨?_, ?_, ?_, ?_, ?_, ?_, ?_⟩ <;> (rintro rfl; simp at digit)
  have blank : ch ≠ ' ' ∧ ch ≠ '\n' ∧ ch ≠ '\t' ∧ ch ≠ '\r' := by
    refine ⟨?_, ?_, ?_, ?_⟩ <;> (rintro rfl; simp at digit)
  rw [readValue, skipBlank_of_head (by simpa [h] using blank)]
  simp [h, number, Except.map, letters, digit]

end Dispatch

/-! ### Containers, item by item -/

/-- A character that may start a value's text: no blank the reader skips, no comma and no closing
bracket or brace. -/
def StartsValue (ch : Char) : Prop :=
  ch ≠ ' ' ∧ ch ≠ '\n' ∧ ch ≠ '\t' ∧ ch ≠ '\r' ∧ ch ≠ ',' ∧ ch ≠ ']' ∧ ch ≠ '}'

section Containers

variable {fuel depth : Nat} {c c₁ : Cursor} {r r₁ : List Char}

theorem readValue_array {xs : List Located} (h : c.rest = '[' :: r) (deep : 2 ≤ depth)
    (items : readItems fuel (depth - 1) true [] c.advance = .ok (xs, c₁))
    (close : c₁.rest = ']' :: r₁) :
    readValue (fuel + 1) depth c =
      .ok (.array xs (some c.position) (some c₁.advance.position) none, c₁.advance) := by
  rw [readValue, skipBlank_of_head (by simp [h])]
  simp [h, items, tooDeep, skipBlank_of_head (c := c₁) (by simp [close]), show ¬depth ≤ 1 by omega]

theorem readValue_object {ms : LocatedMembers} (h : c.rest = '{' :: r) (deep : 2 ≤ depth)
    (members : readMembers fuel (depth - 1) true [] c.advance = .ok (ms, c₁))
    (close : c₁.rest = '}' :: r₁) :
    readValue (fuel + 1) depth c =
      .ok (.object ms (some c.position) (some c₁.advance.position) none, c₁.advance) := by
  rw [readValue, skipBlank_of_head (by simp [h])]
  simp [h, members, tooDeep, skipBlank_of_head (c := c₁) (by simp [close]), show ¬depth ≤ 1 by omega]

theorem readItems_close (first : Bool) (acc : List Located) (h : c.rest = ']' :: r) :
    readItems (fuel + 1) depth first acc c = .ok (acc.reverse, c) := by
  rw [readItems, skipBlank_of_head (by simp [h])]
  simp [h]

theorem readItems_first {acc : List Located} {x : Located} {ch : Char} (h : c.rest = ch :: r)
    (starts : StartsValue ch) (item : readValue fuel depth c = .ok (x, c₁)) :
    readItems (fuel + 1) depth true acc c = readItems fuel depth false (x :: acc) c₁ := by
  obtain ⟨space, newline, tab, cr, comma, close, -⟩ := starts
  rw [readItems, skipBlank_of_head (by simp [h, space, newline, tab, cr])]
  simp [h, item]

theorem readItems_next {acc : List Located} {x : Located} {ch : Char} (h : c.rest = ',' :: ch :: r)
    (starts : StartsValue ch) (item : readValue fuel depth c.advance = .ok (x, c₁)) :
    readItems (fuel + 1) depth false acc c = readItems fuel depth false (x :: acc) c₁ := by
  obtain ⟨space, newline, tab, cr, comma, close, -⟩ := starts
  have next : skipBlank c.advance = c.advance :=
    skipBlank_of_head (by simp [h, space, newline, tab, cr])
  rw [readItems, skipBlank_of_head (by simp [h])]
  simp [h, item, next]

theorem readMembers_close (first : Bool) (acc : LocatedMembers) (h : c.rest = '}' :: r) :
    readMembers (fuel + 1) depth first acc c = .ok (acc.reverse, c) := by
  rw [readMembers, skipBlank_of_head (by simp [h])]
  simp [h]

theorem readMembers_first {acc : LocatedMembers} {x : Located} {key : String} {c₂ : Cursor}
    (h : c.rest = '"' :: r) (keyRead : readStringBody [] c.advance = .ok (key, c₂))
    (colon : c₂.rest = ':' :: r₁) (value : readValue fuel depth c₂.advance = .ok (x, c₁)) :
    readMembers (fuel + 1) depth true acc c =
      readMembers fuel depth false ((key, some c₂.position, x) :: acc) c₁ := by
  rw [readMembers, skipBlank_of_head (by simp [h])]
  simp [h, keyRead, skipBlank_of_head (c := c₂) (by simp [colon]), colon, value]

theorem readMembers_next {acc : LocatedMembers} {x : Located} {key : String} {c₂ : Cursor}
    (h : c.rest = ',' :: '"' :: r) (keyRead : readStringBody [] c.advance.advance = .ok (key, c₂))
    (colon : c₂.rest = ':' :: r₁) (value : readValue fuel depth c₂.advance = .ok (x, c₁)) :
    readMembers (fuel + 1) depth false acc c =
      readMembers fuel depth false ((key, some c₂.position, x) :: acc) c₁ := by
  have next : skipBlank c.advance = c.advance := skipBlank_of_head (by simp [h])
  rw [readMembers, skipBlank_of_head (by simp [h])]
  simp [h, next, keyRead, skipBlank_of_head (c := c₂) (by simp [colon]), colon, value]

end Containers

end MemoryDashboard.Json.Read
