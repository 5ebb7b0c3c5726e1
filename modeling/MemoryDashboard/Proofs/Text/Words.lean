import MemoryDashboard.Proofs.Text.Normalize

/-! # Words and the text they are joined into

A word is a non-empty run of non-blank characters (`mem_words`). Text whose blanks are single
spaces between non-blank characters (`Spaced`) splits at any of its spaces into two such texts,
neither empty, and two such texts joined by a space are one again (`spaced_append_space_iff`).
So words joined by single spaces are spaced text (`spaced_intercalate`), and each piece of spaced
text between the spaces that join it is spaced text too (`Spaced.of_intercalate`): it starts and
ends with a non-blank character, so trimming keeps it.
-/

namespace MemoryDashboard.Text

/-- Splitting at blanks leaves no blank in any piece. -/
theorem splitAtBlanks_plain (cs : List Char) :
    ∀ w ∈ splitAtBlanks cs, ∀ c ∈ w, isBlank c = false := by
  induction cs with
  | nil => simp [splitAtBlanks]
  | cons d rest ih =>
    unfold splitAtBlanks
    by_cases blank : isBlank d = true
    · rw [if_pos blank]
      intro w member
      rcases List.mem_cons.mp member with rfl | later
      · simp
      · exact ih w later
    · rw [if_neg blank]
      have plain : isBlank d = false := by simpa using blank
      -- the character joins the first piece of the rest, or starts one
      split
      · simpa using plain
      · rename_i w ws split
        intro v member c mem
        rcases List.mem_cons.mp member with rfl | later
        · rcases List.mem_cons.mp mem with rfl | inWord
          · exact plain
          · exact ih w (by simp [split]) c inWord
        · exact ih v (by simp [split, later]) c mem

/-- A word is not empty and holds no blank. -/
theorem mem_words {s w : String} (member : w ∈ words s) :
    w.toList ≠ [] ∧ ∀ c ∈ w.toList, isBlank c = false := by
  obtain ⟨piece, kept, rfl⟩ := List.mem_map.mp member
  obtain ⟨split, filled⟩ := List.mem_filter.mp kept
  rw [String.toList_ofList]
  exact ⟨by simpa using filled, splitAtBlanks_plain s.toList piece split⟩

/-- A run of non-blank characters is spaced text. -/
theorem Spaced.of_plain {w : List Char} (plain : ∀ c ∈ w, isBlank c = false) : Spaced w where
  spaces c member blank := by simp [plain c member] at blank
  apart := (List.pairwise_of_forall_mem_list fun a member _ _ => .inl (plain a member)).isChain
  first c member := plain c (List.mem_of_mem_head? member)
  last c member := plain c (List.mem_of_mem_getLast? member)

/-- Spaced text splits at any of its spaces into two spaced texts, neither empty. -/
theorem Spaced.split_at_space {l r : List Char} (spaced : Spaced (l ++ ' ' :: r)) :
    l ≠ [] ∧ r ≠ [] ∧ Spaced l ∧ Spaced r := by
  have space : isBlank ' ' = true := by decide
  rw [← List.singleton_append] at spaced
  obtain ⟨leftApart, middle, junction⟩ := List.isChain_append.mp spaced.apart
  obtain ⟨toRight, rightApart⟩ := List.isChain_cons.mp (by simpa using middle)
  have filledLeft : l ≠ [] := by
    rintro rfl
    simpa [space] using spaced.first
  have filledRight : r ≠ [] := by
    rintro rfl
    simpa [space] using spaced.last
  refine ⟨filledLeft, filledRight, ⟨?_, leftApart, ?_, ?_⟩, ⟨?_, rightApart, ?_, ?_⟩⟩
  · exact fun c member => spaced.spaces c (by simp [member])
  · intro c member
    exact spaced.first c (by rwa [List.head?_append_of_ne_nil _ filledLeft])
  · -- the last character of the left text stands before the space
    intro c member
    have beside := junction c member ' ' (by simp)
    simpa [NotBothBlank, space] using beside
  · exact fun c member => spaced.spaces c (by simp [member])
  · intro c member
    simpa [NotBothBlank, space] using toRight c member
  · intro c member
    have ending : r.getLast? = some c := member
    exact spaced.last c (by simp [List.getLast?_cons, ending])

/-- Two spaced texts, neither empty, joined by a space are spaced text. -/
theorem Spaced.join_space {l r : List Char} (filledLeft : l ≠ []) (filledRight : r ≠ [])
    (left : Spaced l) (right : Spaced r) : Spaced (l ++ ' ' :: r) := by
  rw [← List.singleton_append]
  obtain ⟨d, ds, rfl⟩ := List.exists_cons_of_ne_nil filledRight
  refine ⟨?_, ?_, ?_, ?_⟩
  · intro c member blank
    simp only [List.mem_append, List.mem_cons, List.not_mem_nil, or_false] at member
    rcases member with inLeft | rfl | rfl | inRight
    · exact left.spaces c inLeft blank
    · rfl
    · exact right.spaces c List.mem_cons_self blank
    · exact right.spaces c (List.mem_cons_of_mem d inRight) blank
  · refine left.apart.append (right.apart.cons ?_) ?_
    · intro c member
      exact .inr (right.first c member)
    · intro c member _ space'
      exact .inl (left.last c (by simpa using member))
  · intro c member
    exact left.first c (by rwa [List.head?_append_of_ne_nil _ filledLeft] at member)
  · intro c member
    refine right.last c ?_
    rw [List.getLast?_append_of_ne_nil _ (by simp)] at member
    simpa [List.getLast?_cons] using member

/-- Spaced text is two non-empty spaced texts around any of its spaces, and such two texts joined
by a space are spaced text. -/
theorem spaced_append_space_iff {l r : List Char} :
    Spaced (l ++ ' ' :: r) ↔ l ≠ [] ∧ r ≠ [] ∧ Spaced l ∧ Spaced r :=
  ⟨Spaced.split_at_space, fun ⟨filledLeft, filledRight, left, right⟩ =>
    Spaced.join_space filledLeft filledRight left right⟩

/-- Non-empty runs of non-blank characters joined by single spaces are spaced text. -/
theorem spaced_intercalate : ∀ ws : List (List Char),
    (∀ w ∈ ws, w ≠ [] ∧ ∀ c ∈ w, isBlank c = false) → Spaced ([' '].intercalate ws)
  | [], _ => Spaced.of_plain (by simp)
  | [w], words => by simpa using Spaced.of_plain (words w (by simp)).2
  | w :: v :: rest, words => by
    have joined :
        [' '].intercalate (w :: v :: rest) = w ++ ' ' :: [' '].intercalate (v :: rest) := by
      simp [List.intercalate_cons_cons]
    have rest' := spaced_intercalate (v :: rest) fun u member => words u (by simp [member])
    obtain ⟨filled, plain⟩ := words w (by simp)
    have filledRest : [' '].intercalate (v :: rest) ≠ [] := by
      cases rest with
      | nil => simpa using (words v (by simp)).1
      | cons u rest => simp [List.intercalate_cons_cons]
    rw [joined]
    exact spaced_append_space_iff.mpr ⟨filled, filledRest, Spaced.of_plain plain, rest'⟩

/-- Each piece of spaced text between the single spaces that join it is spaced text. -/
theorem Spaced.of_intercalate : ∀ pieces : List (List Char),
    Spaced ([' '].intercalate pieces) → ∀ p ∈ pieces, Spaced p
  | [], _ => by simp
  | [p], spaced => by simpa using spaced
  | p :: q :: rest, spaced => by
    rw [List.intercalate_cons_cons, List.append_assoc, List.singleton_append] at spaced
    obtain ⟨-, -, first, later⟩ := spaced_append_space_iff.mp spaced
    intro piece member
    rcases List.mem_cons.mp member with rfl | inRest
    · exact first
    · exact Spaced.of_intercalate (q :: rest) later piece inRest

end MemoryDashboard.Text
