import MemoryDashboard.Feed.Observation
import MemoryDashboard.Proofs.Text.Words

/-! # Splitting a summary into sentences

A summary with no facts of its own is read as sentences. Its words are joined by single spaces,
and a loop cuts that text after every `.`, `!` or `?` that a space follows, dropping the space.
The loop carries the sentence read so far, and what it has read is what it gives back: joining
the pieces by single spaces is the text again (`intercalate_splitSentences`). Every piece but
the last ends where a cut was made (`splitSentences_dropLast_ends`), and no piece holds a place
where a cut belongs (`splitSentences_uncut`).

The joined words are spaced text, so each piece is too (`Spaced.of_intercalate`) and trimming
it changes nothing: the facts are the pieces of at least 18 characters themselves, the first
`limit` of them (`sentenceFacts_eq`).

Main statement: `sentence_pieces_rejoin`.
-/

namespace MemoryDashboard.Feed

open Text

/-- A sentence end followed by a space: where the loop cuts. -/
def CutAt (a b : Char) : Prop := endsSentence a = true ∧ b = ' '

theorem splitSentences_ne_nil (current cs : List Char) : splitSentences current cs ≠ [] := by
  fun_induction splitSentences current cs <;> simp_all

/-- The loop loses and adds nothing: the sentence read so far and the rest of the text come
back when the pieces are joined by single spaces. -/
theorem intercalate_splitSentences (current cs : List Char) :
    [' '].intercalate (splitSentences current cs) = current.reverse ++ cs := by
  fun_induction splitSentences current cs with
  | case1 current => simp
  | case2 current c after ends ih =>
    -- a cut: the piece read so far, then the pieces of the text after the dropped space
    obtain ⟨first, rest, split⟩ := List.exists_cons_of_ne_nil (splitSentences_ne_nil [] after)
    rw [split] at ih ⊢
    rw [List.intercalate_cons_cons, ih]
    simp
  | case3 current c after ends ih =>
    rw [ih]
    simp
  | case4 current c rest noSpace ih =>
    rw [ih]
    simp

theorem splitSentences_dropLast_ends (current cs : List Char) :
    ∀ p ∈ (splitSentences current cs).dropLast,
      ∃ t, p.getLast? = some t ∧ endsSentence t = true := by
  fun_induction splitSentences current cs with
  | case1 current => simp
  | case2 current c after ends ih =>
    obtain ⟨first, rest, split⟩ := List.exists_cons_of_ne_nil (splitSentences_ne_nil [] after)
    rw [split] at ih ⊢
    rw [List.dropLast_cons_cons]
    intro p member
    rcases List.mem_cons.mp member with rfl | later
    · exact ⟨c, by simp, ends⟩
    · exact ih p later
  | case3 current c after ends ih => exact ih
  | case4 current c rest noSpace ih => exact ih

/-- Reading one more character keeps the sentence read so far free of cuts when the character
read before it does not cut there. -/
theorem uncut_push {current : List Char} {c : Char}
    (held : current.reverse.IsChain fun a b => ¬ CutAt a b)
    (before : ∀ d ∈ current.head?, ¬ CutAt d c) :
    (c :: current).reverse.IsChain fun a b => ¬ CutAt a b := by
  rw [List.reverse_cons]
  refine held.append (List.isChain_singleton c) ?_
  intro d last e first
  rw [List.getLast?_reverse] at last
  obtain rfl : e = c := by simpa using first.symm
  exact before d last

/-- No piece the loop gives holds a cut, provided the sentence read so far holds none and does
not end in a sentence end that the rest of the text follows with a space. -/
theorem splitSentences_uncut (current cs : List Char)
    (held : current.reverse.IsChain fun a b => ¬ CutAt a b)
    (next : ∀ d ∈ current.head?, ∀ c ∈ cs.head?, ¬ CutAt d c) :
    ∀ p ∈ splitSentences current cs, p.IsChain fun a b => ¬ CutAt a b := by
  -- the invariant is carried by the sentence read so far and the character after it
  fun_induction splitSentences current cs with
  | case1 current => simpa using held
  | case2 current c after ends ih =>
    intro p member
    rcases List.mem_cons.mp member with rfl | later
    · exact uncut_push held fun d last => next d last c rfl
    · exact ih (by simp) (by simp) p later
  | case3 current c after ends ih =>
    refine ih (uncut_push held fun d last => next d last c rfl) ?_
    intro d last e first
    obtain rfl : d = c := by simpa using last.symm
    simp [CutAt, ends]
  | case4 current c rest noSpace ih =>
    refine ih (uncut_push held fun d last => next d last c rfl) ?_
    -- the character after is no space, or the loop would have looked for a cut
    intro d last e first cut
    cases rest with
    | nil => simp at first
    | cons e' tail =>
      obtain rfl : e' = e := by simpa using first
      exact noSpace tail (by rw [cut.2])

/-! ### The pieces of a summary -/

/-- Words joined by single spaces are spaced text. -/
theorem spaced_normalizeWhitespace (text : String) : Spaced (normalizeWhitespace text).toList := by
  have space : " ".toList = [' '] := by simp
  rw [normalizeWhitespace, String.toList_intercalate, space]
  apply spaced_intercalate
  intro w member
  obtain ⟨word, inWords, rfl⟩ := List.mem_map.mp member
  exact mem_words inWords

theorem intercalate_sentencePieces (text : String) :
    [' '].intercalate (sentencePieces text) = (normalizeWhitespace text).toList := by
  rw [sentencePieces, intercalate_splitSentences]
  simp

/-- Every piece starts and ends with a non-blank character, so trimming keeps it. -/
theorem sentencePieces_spaced (text : String) : ∀ p ∈ sentencePieces text, Spaced p := by
  apply Spaced.of_intercalate
  rw [intercalate_sentencePieces]
  exact spaced_normalizeWhitespace text

/-- The facts are the first `limit` pieces of at least 18 characters, untrimmed. -/
theorem sentenceFacts_eq (text : String) (limit : Nat) :
    sentenceFacts text limit =
      (((sentencePieces text).filter fun p => 18 ≤ p.length).take limit).map String.ofList := by
  unfold sentenceFacts
  split
  · -- no words: the loop gives one empty piece, too short to keep
    rename_i blank
    have empty : normalizeWhitespace text = "" := String.isEmpty_iff.mp blank
    simp [sentencePieces, empty, splitSentences]
  · have trimmed : (sentencePieces text).map (fun p => trim (String.ofList p)) =
        (sentencePieces text).map String.ofList :=
      List.map_congr_left fun p member => (sentencePieces_spaced text p member).trim
    rw [trimmed, List.filter_map, ← List.map_take]
    congr 3
    funext p
    simp [String.length_ofList]

/-- The sentence pieces of a summary: joined by single spaces they are its words joined so;
every piece but the last ends with `.`, `!` or `?`; no piece holds one of those followed by a
space; and the facts are the first `limit` pieces of at least 18 characters, none when the
summary has no words. -/
theorem sentence_pieces_rejoin (text : String) (limit : Nat) :
    [' '].intercalate (sentencePieces text) = (normalizeWhitespace text).toList ∧
      (∀ p ∈ (sentencePieces text).dropLast,
        ∃ t, p.getLast? = some t ∧ endsSentence t = true) ∧
      (∀ p ∈ sentencePieces text, ∀ t, endsSentence t = true → ¬ [t, ' '] <:+: p) ∧
      sentenceFacts text limit =
        (((sentencePieces text).filter fun p => 18 ≤ p.length).take limit).map String.ofList ∧
      (normalizeWhitespace text = "" → sentenceFacts text limit = []) := by
  refine ⟨intercalate_sentencePieces text, splitSentences_dropLast_ends [] _, ?_,
    sentenceFacts_eq text limit, fun empty => by simp [sentenceFacts, empty]⟩
  intro p member t ends inside
  have uncut := splitSentences_uncut [] _ (by simp) (by simp) p member
  have pair := List.IsChain.infix uncut inside
  exact List.isChain_pair.mp pair ⟨ends, rfl⟩

end MemoryDashboard.Feed
