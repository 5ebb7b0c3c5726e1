import MemoryDashboard.Json.Read

/-! # The reader's cursor

A cursor holds the text still to read. Its steps act on that text alone: peeking looks at its
first character, advancing drops it, blanks are skipped only where there are some, and a word is
matched character by character. The value reader is bounded by fuel; without any, it stops at
once at the recursion limit.
-/

namespace MemoryDashboard.Json.Read

@[simp] theorem Cursor.peek?_eq (c : Cursor) : c.peek? = c.rest.head? := rfl

@[simp] theorem Cursor.advance_rest (c : Cursor) : c.advance.rest = c.rest.tail := by
  unfold Cursor.advance
  split <;> simp_all

/-- Blanks are skipped only where there are some. -/
theorem skipBlank_of_head {c : Cursor}
    (h : ∀ ch ∈ c.rest.head?, ch ≠ ' ' ∧ ch ≠ '\n' ∧ ch ≠ '\t' ∧ ch ≠ '\r') : skipBlank c = c := by
  rw [skipBlank]
  split
  · rfl
  · next ch _ hr =>
      obtain ⟨space, newline, tab, cr⟩ := h ch (by simp [hr])
      simp [space, newline, tab, cr]

theorem readWord_prefix : ∀ {expected : List Char} {c : Cursor} {r : List Char},
    c.rest = expected ++ r → ∃ c', readWord expected c = .ok c' ∧ c'.rest = r := by
  intro expected
  induction expected with
  | nil => intro c r h; exact ⟨c, rfl, by simpa using h⟩
  | cons e more ih =>
      intro c r h
      obtain ⟨c', run, rest⟩ := ih (c := c.advance) (show c.advance.rest = more ++ r by simp [h])
      refine ⟨c', ?_, rest⟩
      rw [readWord]
      simp [h, run]

/-! ### Out of fuel -/

/-- Out of fuel, the reader reads nothing. -/
theorem readValue_zero (depth : Nat) (c : Cursor) :
    readValue 0 depth c = .error (⟨.recursionLimitExceeded, c.position⟩,
      .broken ⟨.recursionLimitExceeded, c.position⟩ c.position true) := by
  rw [readValue]

end MemoryDashboard.Json.Read
