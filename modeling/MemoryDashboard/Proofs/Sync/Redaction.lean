import MemoryDashboard.Sync.Address
import MemoryDashboard.Proofs.Text.Ranges
import Mathlib

/-! # Redaction leaves no address

The address pattern is four octets of one to three decimal digits joined by points, standing as a
whole word: a word boundary before it and after it (`QuadAt`). Redaction reads the text from left
to right; where a match starts it keeps the first two octets, hides the other two behind `#`, and
goes on after the match; elsewhere it keeps the character (`Hides`). This is the leftmost,
non-overlapping replacement of every match, and the redaction is the one text it allows
(`hides_iff`).

No address is left in a redacted text (`Hides.noMatch`). A match in the output cannot reach a `#`,
and up to the first hidden octet the output is the text itself (`Hides.first_change`); the
boundaries around such a stretch are those of the text, so a match there was already a match of
the text at a place where the reading found none. So redacting twice is redacting once
(`redaction_hides_every_address`).

Decimal digits and word characters are the Unicode classes of the pattern language; every decimal
digit is a word character, so a boundary next to a digit is a character that is not a word
character, or the edge of the text.
-/

namespace MemoryDashboard.Sync

open Text

/-! ### Points, hashes and digits -/

theorem point_not_digit : isDecimalDigit '.' = false := by decide +kernel

theorem hash_not_digit : isDecimalDigit '#' = false := by decide +kernel

theorem hash_not_word : isWordChar '#' = false := by decide +kernel

/-- A point ends an octet. -/
theorem point_ends (rest : List Char) : ∀ x ∈ ('.' :: rest).head?, isDecimalDigit x = false := by
  simp [point_not_digit]

/-- Beside a text that starts with no word character, no decimal digit starts either. -/
theorem not_digit_of_not_word {rest : List Char} (notWord : wordBefore rest.head? = false) :
    ∀ x ∈ rest.head?, isDecimalDigit x = false := by
  intro x first
  rw [Option.mem_def] at first
  rw [first, wordBefore] at notWord
  cases digit : isDecimalDigit x
  · rfl
  · rw [isWordChar_of_isDecimalDigit digit] at notWord
    cases notWord

/-! ### The pattern -/

/-- One to three decimal digits. -/
def IsOctet (g : List Char) : Prop := g ≠ [] ∧ g.length ≤ 3 ∧ ∀ c ∈ g, isDecimalDigit c = true

/-- Four groups joined by points. -/
def quad (a b c d : List Char) : List Char := a ++ '.' :: (b ++ '.' :: (c ++ '.' :: d))

/-- What an address is replaced by: its first two octets and two hidden ones. -/
def hidden (a b : List Char) : List Char := a ++ '.' :: (b ++ ['.', '#', '.', '#'])

/-- A word boundary between two neighbouring characters, an edge of the text counting as a
character that is not a word character. -/
def Boundary (left right : Option Char) : Prop := wordBefore left ≠ wordBefore right

/-- The address pattern matches the octets `a`, `b`, `c`, `d` joined by points, after the
character `before` and before the text `after`. -/
structure QuadAt (before : Option Char) (a b c d after : List Char) : Prop where
  first : IsOctet a
  second : IsOctet b
  third : IsOctet c
  fourth : IsOctet d
  opens : Boundary before a.head?
  closes : Boundary d.getLast? after.head?

/-- The pattern matches `m` between the character before it and the text after it. -/
def Matches (before : Option Char) (m after : List Char) : Prop :=
  ∃ a b c d, m = quad a b c d ∧ QuadAt before a b c d after

/-- A match of the pattern starts at the front of `cs`. -/
def StartsMatch (before : Option Char) (cs : List Char) : Prop :=
  ∃ a b c d after, cs = quad a b c d ++ after ∧ QuadAt before a b c d after

theorem quad_append (a b c d after : List Char) :
    quad a b c d ++ after = a ++ '.' :: (b ++ '.' :: (c ++ '.' :: (d ++ after))) := by
  simp [quad]

theorem IsOctet.wordBefore_head {g : List Char} (octet : IsOctet g) : wordBefore g.head? = true := by
  obtain ⟨nonempty, -, digits⟩ := octet
  obtain ⟨x, rest, rfl⟩ := List.exists_cons_of_ne_nil nonempty
  exact isWordChar_of_isDecimalDigit (digits x List.mem_cons_self)

theorem IsOctet.wordBefore_getLast {g : List Char} (octet : IsOctet g) :
    wordBefore g.getLast? = true := by
  obtain ⟨nonempty, -, digits⟩ := octet
  rw [List.getLast?_eq_some_getLast nonempty, wordBefore]
  exact isWordChar_of_isDecimalDigit (digits _ (List.getLast_mem nonempty))

/-- A match starts after a character that is not a word character, or at the start. -/
theorem QuadAt.before_not_word {before : Option Char} {a b c d after : List Char}
    (found : QuadAt before a b c d after) : wordBefore before = false := by
  have opens := found.opens
  rw [Boundary, found.first.wordBefore_head] at opens
  exact Bool.eq_false_iff.mpr opens

/-- A match ends before a character that is not a word character, or at the end. -/
theorem QuadAt.after_not_word {before : Option Char} {a b c d after : List Char}
    (found : QuadAt before a b c d after) : wordBefore after.head? = false := by
  have closes := found.closes
  rw [Boundary, found.fourth.wordBefore_getLast] at closes
  exact Bool.eq_false_iff.mpr (Ne.symm closes)

theorem QuadAt.of_octets {before : Option Char} {a b c d after : List Char} (first : IsOctet a)
    (second : IsOctet b) (third : IsOctet c) (fourth : IsOctet d)
    (notWordBefore : wordBefore before = false) (notWordAfter : wordBefore after.head? = false) :
    QuadAt before a b c d after where
  first := first
  second := second
  third := third
  fourth := fourth
  opens := by rw [Boundary, notWordBefore, first.wordBefore_head]; decide
  closes := by rw [Boundary, fourth.wordBefore_getLast, notWordAfter]; decide

/-! ### Reading an address -/

theorem octet_append {g rest : List Char} (octet : IsOctet g)
    (ends : ∀ x ∈ rest.head?, isDecimalDigit x = false) : Sync.octet (g ++ rest) = some (g, rest) := by
  have taken : (g ++ rest).takeWhile isDecimalDigit = g := by
    rw [List.takeWhile_append_of_pos octet.2.2]
    cases rest with
    | nil => simp
    | cons x r => simp [ends x rfl]
  have short : ¬ g.length > 3 := by have := octet.2.1; omega
  simp [Sync.octet, taken, octet.1, short]

theorem octet_eq_some {cs g rest : List Char} (parsed : Sync.octet cs = some (g, rest)) :
    IsOctet g ∧ cs = g ++ rest ∧ ∀ x ∈ rest.head?, isDecimalDigit x = false := by
  unfold Sync.octet at parsed
  dsimp only at parsed
  split at parsed
  · cases parsed
  · rename_i fits
    obtain ⟨taken, dropped⟩ := Prod.mk.inj (Option.some.inj parsed)
    subst taken dropped
    have split : cs = cs.takeWhile isDecimalDigit ++ cs.dropWhile isDecimalDigit :=
      List.takeWhile_append_dropWhile.symm
    have rest : cs.drop (cs.takeWhile isDecimalDigit).length = cs.dropWhile isDecimalDigit := by
      calc cs.drop (cs.takeWhile isDecimalDigit).length
          = (cs.takeWhile isDecimalDigit ++ cs.dropWhile isDecimalDigit).drop
              (cs.takeWhile isDecimalDigit).length := by rw [← split]
        _ = cs.dropWhile isDecimalDigit := List.drop_left
    simp only [Bool.or_eq_true, List.isEmpty_iff, decide_eq_true_eq, not_or, not_lt] at fits
    refine ⟨⟨fits.1, fits.2, fun c mem => List.mem_takeWhile_imp mem⟩, ?_, ?_⟩
    · rw [rest]
      exact split
    · intro x first
      have stops := List.head?_dropWhile_not isDecimalDigit cs
      rw [rest, Option.mem_def] at first
      rw [first] at stops
      exact stops

theorem octet_of_not_digit {x : Char} {rest : List Char} (notDigit : isDecimalDigit x = false) :
    Sync.octet (x :: rest) = none := by
  simp [Sync.octet, notDigit]

/-- The reader finds every match at the front of a text. -/
theorem addressAt_quad {before : Option Char} {a b c d after : List Char}
    (found : QuadAt before a b c d after) :
    addressAt (quad a b c d ++ after) = some (a ++ '.' :: b, d.getLast?, after) := by
  have ends := found.after_not_word
  rw [quad_append]
  unfold addressAt
  simp only [Option.bind_eq_bind, octet_append found.first (point_ends _), Option.bind_some,
    octet_append found.second (point_ends _), octet_append found.third (point_ends _),
    octet_append found.fourth (not_digit_of_not_word ends)]
  cases after with
  | nil => rfl
  | cons x tail =>
      simp only [List.head?_cons, wordBefore] at ends
      simp [ends]

/-- What the reader finds at the front of a text is a match there, up to the boundary before it. -/
theorem addressAt_eq_some {cs p after : List Char} {last : Option Char}
    (found : addressAt cs = some (p, last, after)) :
    ∃ a b c d, cs = quad a b c d ++ after ∧ IsOctet a ∧ IsOctet b ∧ IsOctet c ∧ IsOctet d ∧
      wordBefore after.head? = false ∧ p = a ++ '.' :: b ∧ last = d.getLast? := by
  unfold addressAt at found
  simp only [Option.bind_eq_bind, Option.bind_eq_some_iff] at found
  -- an octet, a point, an octet, a point, an octet, a point, an octet, then no word character
  obtain ⟨⟨a, cs₁⟩, parsedA, found⟩ := found
  split at found
  case h_2 => cases found
  rename_i rest₁ point₁
  simp only [Option.bind_some, Option.bind_eq_some_iff] at found
  obtain ⟨⟨b, cs₂⟩, parsedB, found⟩ := found
  split at found
  case h_2 => cases found
  rename_i rest₂ point₂
  simp only [Option.bind_eq_some_iff] at found
  obtain ⟨⟨c, cs₃⟩, parsedC, found⟩ := found
  split at found
  case h_2 => cases found
  rename_i rest₃ point₃
  simp only [Option.bind_eq_some_iff] at found
  obtain ⟨⟨d, cs₄⟩, parsedD, found⟩ := found
  obtain ⟨octetA, rfl, -⟩ := octet_eq_some parsedA
  obtain ⟨octetB, rfl, -⟩ := octet_eq_some parsedB
  obtain ⟨octetC, rfl, -⟩ := octet_eq_some parsedC
  obtain ⟨octetD, rfl, -⟩ := octet_eq_some parsedD
  simp only at point₁ point₂ point₃
  subst point₁ point₂ point₃
  have shape : a ++ '.' :: (b ++ '.' :: (c ++ '.' :: (d ++ cs₄))) = quad a b c d ++ cs₄ :=
    (quad_append a b c d cs₄).symm
  split at found
  · rename_i x tail follows
    simp only at follows
    subst follows
    split at found
    · cases found
    · rename_i notWord
      obtain ⟨rfl, rfl, rfl⟩ := found
      exact ⟨a, b, c, d, shape, octetA, octetB, octetC, octetD, by simpa [wordBefore] using notWord,
        rfl, rfl⟩
  · rename_i follows
    simp only at follows
    subst follows
    obtain ⟨rfl, rfl, rfl⟩ := found
    exact ⟨a, b, c, d, shape, octetA, octetB, octetC, octetD, rfl, rfl, rfl⟩

/-- A match starts at the front of a text exactly when no word character comes before it and the
reader finds an address there. -/
theorem startsMatch_iff {before : Option Char} {cs : List Char} :
    StartsMatch before cs ↔ wordBefore before = false ∧ (addressAt cs).isSome := by
  constructor
  · rintro ⟨a, b, c, d, after, rfl, found⟩
    exact ⟨found.before_not_word, by rw [addressAt_quad found]; rfl⟩
  · rintro ⟨notWord, parsed⟩
    obtain ⟨⟨p, last, after⟩, parsedEq⟩ := Option.isSome_iff_exists.mp parsed
    obtain ⟨a, b, c, d, shape, octetA, octetB, octetC, octetD, ends, -, -⟩ :=
      addressAt_eq_some parsedEq
    exact ⟨a, b, c, d, after, shape, .of_octets octetA octetB octetC octetD notWord ends⟩

/-- A match starts with a decimal digit. -/
theorem StartsMatch.head_digit {before : Option Char} {x : Char} {rest : List Char}
    (starts : StartsMatch before (x :: rest)) : isDecimalDigit x = true := by
  obtain ⟨a, b, c, d, after, shape, found⟩ := starts
  obtain ⟨y, a', rfl⟩ := List.exists_cons_of_ne_nil found.first.1
  rw [quad_append, List.cons_append, List.cons.injEq] at shape
  rw [shape.1]
  exact found.first.2.2 y List.mem_cons_self

theorem not_startsMatch_of_not_digit {before : Option Char} {x : Char} {rest : List Char}
    (notDigit : isDecimalDigit x = false) : ¬ StartsMatch before (x :: rest) := fun starts => by
  rw [starts.head_digit] at notDigit
  cases notDigit

theorem not_startsMatch_of_word {before : Option Char} {cs : List Char}
    (wordy : wordBefore before = true) : ¬ StartsMatch before cs := fun starts => by
  rw [(startsMatch_iff.mp starts).1] at wordy
  cases wordy

theorem not_startsMatch_of_addressAt {before : Option Char} {cs : List Char}
    (none : addressAt cs = none) : ¬ StartsMatch before cs := fun starts => by
  have found := (startsMatch_iff.mp starts).2
  rw [none] at found
  cases found

/-! ### Redacting -/

/-- `Hides before t out`: `out` is the text `t`, after the character `before`, with the last two
octets of every leftmost, non-overlapping match hidden. The text is read from the left: where a
match starts it is replaced and reading goes on after it, the match's last character coming
before; elsewhere a character is kept. -/
inductive Hides : Option Char → List Char → List Char → Prop
  | nil (before : Option Char) : Hides before [] []
  | keep {before : Option Char} {c : Char} {rest out : List Char}
      (unmatched : ¬ StartsMatch before (c :: rest)) (later : Hides (some c) rest out) :
      Hides before (c :: rest) (c :: out)
  | hide {before : Option Char} {a b c d after out : List Char}
      (found : QuadAt before a b c d after) (later : Hides d.getLast? after out) :
      Hides before (quad a b c d ++ after) (hidden a b ++ out)

theorem redactWith_keep {fuel : Nat} {before : Option Char} {c : Char} {rest : List Char}
    (unmatched : ¬ StartsMatch before (c :: rest)) :
    redactWith (fuel + 1) before (c :: rest) = c :: redactWith fuel (some c) rest := by
  have notFound : (if wordBefore before then none else addressAt (c :: rest)) = none := by
    by_cases wordy : wordBefore before = true
    · rw [if_pos wordy]
    · rw [if_neg wordy]
      cases parsed : addressAt (c :: rest) with
      | none => rfl
      | some found =>
          have starts : StartsMatch before (c :: rest) :=
            startsMatch_iff.mpr ⟨by simpa using wordy, by rw [parsed]; rfl⟩
          exact absurd starts unmatched
  simp only [redactWith, notFound]

theorem redactWith_hide {fuel : Nat} {before : Option Char} {a b c d after : List Char}
    (found : QuadAt before a b c d after) :
    redactWith (fuel + 1) before (quad a b c d ++ after) =
      hidden a b ++ redactWith fuel d.getLast? after := by
  have parsed := addressAt_quad found
  obtain ⟨x, a', shape⟩ := List.exists_cons_of_ne_nil found.first.1
  have front : quad a b c d ++ after = x :: (a' ++ '.' :: (b ++ '.' :: (c ++ '.' :: (d ++ after)))) := by
    rw [quad_append, shape, List.cons_append]
  rw [front] at parsed ⊢
  simp only [redactWith, found.before_not_word, parsed, Bool.false_eq_true, ↓reduceIte]
  simp [hidden, shape]

/-- The redaction of a text, read with enough steps, hides every leftmost match. -/
theorem hides_redactWith (fuel : Nat) :
    ∀ (before : Option Char) (cs : List Char), cs.length ≤ fuel →
      Hides before cs (redactWith fuel before cs) := by
  induction fuel with
  | zero =>
      intro before cs enough
      rw [List.eq_nil_of_length_eq_zero (Nat.le_zero.mp enough)]
      exact .nil before
  | succ fuel ih =>
      intro before cs enough
      cases cs with
      | nil => exact .nil before
      | cons c rest =>
          by_cases starts : StartsMatch before (c :: rest)
          · obtain ⟨a, b, c', d, after, shape, found⟩ := starts
            have shorter : after.length ≤ fuel := by
              have total := congrArg List.length shape
              simp only [quad_append, List.length_cons, List.length_append] at total enough
              omega
            rw [shape, redactWith_hide found]
            exact .hide found (ih _ _ shorter)
          · rw [redactWith_keep starts]
            exact .keep starts (ih _ _ (by simp only [List.length_cons] at enough; omega))

/-- Only the redaction hides every leftmost match: any text that does is the redaction. -/
theorem Hides.eq_redactWith {before : Option Char} {t out : List Char} (hides : Hides before t out) :
    ∀ fuel, t.length ≤ fuel → out = redactWith fuel before t := by
  induction hides with
  | nil before =>
      intro fuel _
      cases fuel <;> rfl
  | keep unmatched later ih =>
      intro fuel enough
      obtain ⟨fuel, rfl⟩ : ∃ n, fuel = n + 1 := ⟨fuel - 1, by simp only [List.length_cons] at enough; omega⟩
      rw [redactWith_keep unmatched, ih fuel (by simp only [List.length_cons] at enough; omega)]
  | @hide before a b c d after out found later ih =>
      intro fuel enough
      have total : after.length + 7 ≤ fuel := by
        have octets := found.first.1
        simp only [quad_append, List.length_append, List.length_cons] at enough
        have : a.length ≠ 0 := by simpa using octets
        have : b.length ≠ 0 := by simpa using found.second.1
        have : c.length ≠ 0 := by simpa using found.third.1
        have : d.length ≠ 0 := by simpa using found.fourth.1
        omega
      obtain ⟨fuel, rfl⟩ : ∃ n, fuel = n + 1 := ⟨fuel - 1, by omega⟩
      rw [redactWith_hide found, ih fuel (by omega)]

/-- Up to its first hidden octet a redaction is the text itself, and a hidden octet follows a
point. -/
theorem Hides.first_change {before : Option Char} {t out : List Char} (hides : Hides before t out) :
    out = t ∨ ∃ common outRest tRest x, out = common ++ '#' :: outRest ∧
      t = common ++ x :: tRest ∧ common.getLast? = some '.' := by
  induction hides with
  | nil => exact .inl rfl
  | @keep before c rest out unmatched later ih =>
      rcases ih with same | ⟨common, outRest, tRest, x, outShape, tShape, point⟩
      · exact .inl (by rw [same])
      · have nonempty : common ≠ [] := by rintro rfl; cases point
        refine .inr ⟨c :: common, outRest, tRest, x, by rw [outShape]; rfl, by rw [tShape]; rfl, ?_⟩
        rw [List.getLast?_cons, point]
        rfl
  | @hide before a b c d after out found later ih =>
      obtain ⟨x, c', rfl⟩ := List.exists_cons_of_ne_nil found.third.1
      have point : (a ++ '.' :: b ++ ['.']).getLast? = some '.' := List.getLast?_concat
      refine .inr ⟨a ++ '.' :: b ++ ['.'], '.' :: '#' :: out, c' ++ '.' :: (d ++ after), x, ?_, ?_,
        point⟩
      · simp [hidden]
      · simp [quad_append]

/-! ### No match is left -/

/-- No match starts anywhere in `cs`, read after the character `before`. -/
def NoMatchFrom : Option Char → List Char → Prop
  | _, [] => True
  | before, c :: rest => ¬ StartsMatch before (c :: rest) ∧ NoMatchFrom (some c) rest

theorem NoMatchFrom.not_startsMatch :
    ∀ {before : Option Char} {cs : List Char}, NoMatchFrom before cs → ¬ StartsMatch before cs
  | _, [], _, ⟨a, b, c, d, after, shape, _⟩ => by simp [quad] at shape
  | _, _ :: _, clean, starts => clean.1 starts

theorem getLast?_cons_or (x : Char) (pre : List Char) (before : Option Char) :
    (x :: pre).getLast?.or before = pre.getLast?.or (some x) := by
  cases last : pre.getLast? with
  | none => rw [List.getLast?_eq_none_iff.mp last]; rfl
  | some y => simp [List.getLast?_cons, last]

/-- Where no match starts, no stretch of the text is a match between its neighbours. -/
theorem NoMatchFrom.not_matches {before : Option Char} {cs : List Char}
    (clean : NoMatchFrom before cs) (pre m post : List Char) (split : cs = pre ++ m ++ post) :
    ¬ Matches (pre.getLast?.or before) m post := by
  induction pre generalizing before cs with
  | nil =>
      rintro ⟨a, b, c, d, rfl, found⟩
      exact clean.not_startsMatch ⟨a, b, c, d, post, by simpa using split, found⟩
  | cons x pre ih =>
      subst split
      rw [getLast?_cons_or]
      exact ih clean.2 rfl

/-- A text in which no match starts is its own redaction. -/
theorem hides_self :
    ∀ {before : Option Char} {cs : List Char}, NoMatchFrom before cs → Hides before cs cs
  | before, [], _ => .nil before
  | _, _ :: _, ⟨unmatched, later⟩ => .keep unmatched (hides_self later)

/-- Inside a run of decimal digits only its first position can start a match. -/
theorem noMatchFrom_digits_append {before : Option Char} {g rest : List Char} (nonempty : g ≠ [])
    (digits : ∀ c ∈ g, isDecimalDigit c = true) (first : ¬ StartsMatch before (g ++ rest))
    (later : NoMatchFrom g.getLast? rest) : NoMatchFrom before (g ++ rest) := by
  induction g generalizing before with
  | nil => exact absurd rfl nonempty
  | cons x g ih =>
      rw [List.cons_append]
      refine ⟨first, ?_⟩
      cases g with
      | nil => exact later
      | cons y g =>
          -- the next position follows the digit x, a word character
          have wordy : wordBefore (some x) = true :=
            isWordChar_of_isDecimalDigit (digits x List.mem_cons_self)
          rw [List.getLast?_cons_cons] at later
          exact ih (List.cons_ne_nil y g) (fun c mem => digits c (List.mem_cons_of_mem x mem))
            (not_startsMatch_of_word wordy) later

/-- No match starts inside what hides an address: the reader stops at the hidden octet after the
second one, and every other position is a point, a `#` or follows a digit. -/
theorem noMatchFrom_hidden {before : Option Char} {a b out : List Char} (octetA : IsOctet a)
    (octetB : IsOctet b) (later : NoMatchFrom (some '#') out) :
    NoMatchFrom before (hidden a b ++ out) := by
  have tail : NoMatchFrom b.getLast? ('.' :: '#' :: '.' :: '#' :: out) :=
    ⟨not_startsMatch_of_not_digit point_not_digit, not_startsMatch_of_not_digit hash_not_digit,
      not_startsMatch_of_not_digit point_not_digit, not_startsMatch_of_not_digit hash_not_digit,
      later⟩
  have secondUnread : addressAt (b ++ '.' :: '#' :: '.' :: '#' :: out) = none := by
    unfold addressAt
    simp only [Option.bind_eq_bind, octet_append octetB (point_ends _), Option.bind_some,
      octet_of_not_digit hash_not_digit, Option.bind_none]
  have second : NoMatchFrom (some '.') (b ++ '.' :: '#' :: '.' :: '#' :: out) :=
    noMatchFrom_digits_append octetB.1 octetB.2.2 (not_startsMatch_of_addressAt secondUnread) tail
  have firstUnread : addressAt (a ++ '.' :: (b ++ '.' :: '#' :: '.' :: '#' :: out)) = none := by
    unfold addressAt
    simp only [Option.bind_eq_bind, octet_append octetA (point_ends _), Option.bind_some,
      octet_append octetB (point_ends _), octet_of_not_digit hash_not_digit, Option.bind_none]
  have shape : hidden a b ++ out = a ++ '.' :: (b ++ '.' :: '#' :: '.' :: '#' :: out) := by
    simp [hidden]
  rw [shape]
  exact noMatchFrom_digits_append octetA.1 octetA.2.2 (not_startsMatch_of_addressAt firstUnread)
    ⟨not_startsMatch_of_not_digit point_not_digit, second⟩

theorem IsOctet.hash_not_mem {g : List Char} (octet : IsOctet g) : '#' ∉ g := fun mem => by
  have digit := octet.2.2 '#' mem
  rw [hash_not_digit] at digit
  cases digit

theorem IsOctet.getLast_ne_point {g : List Char} (octet : IsOctet g) : g.getLast? ≠ some '.' :=
  fun last => by
    have digit := octet.2.2 '.' (List.mem_of_getLast? last)
    rw [point_not_digit] at digit
    cases digit

theorem QuadAt.hash_not_mem {before : Option Char} {a b c d after : List Char}
    (found : QuadAt before a b c d after) : '#' ∉ quad a b c d := by
  simp [quad, found.first.hash_not_mem, found.second.hash_not_mem, found.third.hash_not_mem,
    found.fourth.hash_not_mem]

theorem QuadAt.getLast_ne_point {before : Option Char} {a b c d after : List Char}
    (found : QuadAt before a b c d after) : (quad a b c d).getLast? ≠ some '.' := by
  have front : quad a b c d = a ++ '.' :: b ++ '.' :: c ++ ['.'] ++ d := by simp [quad]
  rw [front, List.getLast?_append_of_ne_nil _ found.fourth.1]
  exact found.fourth.getLast_ne_point

/-- A match in front of a text that agrees with another up to a point followed by `#` is a match
in front of the other: it holds no `#` and does not end on a point, so it ends inside what the
two texts share and before the same character. -/
theorem startsMatch_of_common {before : Option Char} {common rest rest' : List Char} {x : Char}
    (point : common.getLast? = some '.') (starts : StartsMatch before (common ++ '#' :: rest)) :
    StartsMatch before (common ++ x :: rest') := by
  obtain ⟨a, b, c, d, after, shape, found⟩ := starts
  rcases List.append_eq_append_iff.mp shape with ⟨more, quadEq, restEq⟩ | ⟨more, commonEq, afterEq⟩
  · -- the match would reach the `#` or end on the point
    exfalso
    cases more with
    | nil =>
        rw [List.append_nil] at quadEq
        exact found.getLast_ne_point (quadEq ▸ point)
    | cons y more =>
        rw [List.cons_append, List.cons.injEq] at restEq
        rw [← restEq.1] at quadEq
        exact found.hash_not_mem (quadEq ▸ List.mem_append_right common List.mem_cons_self)
  · cases more with
    | nil =>
        rw [List.append_nil] at commonEq
        exact absurd (commonEq ▸ point) found.getLast_ne_point
    | cons y more =>
        have sameNext : (y :: more ++ x :: rest').head? = after.head? := by rw [afterEq]; rfl
        refine ⟨a, b, c, d, y :: more ++ x :: rest', by simp [commonEq], ?_⟩
        exact { found with closes := sameNext ▸ found.closes }

/-- Nothing a reading leaves behind starts a match: read after the text's own neighbour, or after
a character that is no word character when the text starts with none. -/
theorem Hides.noMatch {before : Option Char} {t out : List Char} (hides : Hides before t out) :
    ∀ outBefore : Option Char,
      (outBefore = before ∨ (wordBefore outBefore = false ∧ wordBefore t.head? = false)) →
        NoMatchFrom outBefore out := by
  induction hides with
  | nil => intro _ _; trivial
  | @keep before c rest out unmatched later ih =>
      intro outBefore agrees
      refine ⟨?_, ih (some c) (.inl rfl)⟩
      rcases agrees with rfl | ⟨-, notWord⟩
      · -- a match here reaches no hidden octet, so it is a match of the text the reading passed
        intro starts
        rcases later.first_change with same | ⟨common, outRest, tRest, x, outShape, tShape, point⟩
        · rw [same] at starts
          exact unmatched starts
        · rw [outShape, ← List.cons_append] at starts
          rw [tShape, ← List.cons_append] at unmatched
          have point' : (c :: common).getLast? = some '.' := by rw [List.getLast?_cons, point]; rfl
          exact unmatched (startsMatch_of_common point' starts)
      · -- the kept character is no word character, so no digit
        intro starts
        simp only [List.head?_cons, wordBefore, isWordChar_of_isDecimalDigit starts.head_digit]
          at notWord
        cases notWord
  | @hide before a b c d after out found later ih =>
      intro outBefore _
      exact noMatchFrom_hidden found.first found.second
        (ih (some '#') (.inr ⟨hash_not_word, found.after_not_word⟩))

/-- No stretch of what the reading of a whole text leaves is a match between its neighbours. -/
theorem Hides.not_matches {t out : List Char} (hides : Hides none t out) (pre m post : List Char)
    (split : out = pre ++ m ++ post) : ¬ Matches pre.getLast? m post := by
  have unmatched := (hides.noMatch none (.inl rfl)).not_matches pre m post split
  rwa [Option.or_none] at unmatched

/-- What the reading of a whole text leaves reads as itself. -/
theorem Hides.again {t out : List Char} (hides : Hides none t out) : Hides none out out :=
  hides_self (hides.noMatch none (.inl rfl))

theorem hides_redactOctets (t : String) : Hides none t.toList (redactOctets t).toList := by
  rw [redactOctets, String.toList_ofList]
  exact hides_redactWith _ none _ (by rw [String.length_toList])

/-- The redaction of a text is the one text that hides every leftmost match of it. -/
theorem hides_iff {t : String} {out : List Char} :
    Hides none t.toList out ↔ out = (redactOctets t).toList := by
  constructor
  · intro hides
    rw [redactOctets, String.toList_ofList]
    exact hides.eq_redactWith _ (by rw [String.length_toList])
  · rintro rfl
    exact hides_redactOctets t

/-- For every text, redaction hides the last two octets of each leftmost, non-overlapping match
and changes nothing else; no stretch of what it leaves matches the pattern between its
neighbours; and redacting again changes nothing. -/
theorem redaction_hides_every_address (t : String) :
    (∀ out, Hides none t.toList out ↔ out = (redactOctets t).toList) ∧
      (∀ pre m post, (redactOctets t).toList = pre ++ m ++ post → ¬ Matches pre.getLast? m post) ∧
      redactOctets (redactOctets t) = redactOctets t := by
  have hides := hides_redactOctets t
  refine ⟨fun out => hides_iff, hides.not_matches, ?_⟩
  -- the redaction reads as itself, so redacting it again gives it back
  have same := hides.again.eq_redactWith (redactOctets t).length (by rw [String.length_toList])
  have unfolded : redactOctets (redactOctets t) =
      String.ofList (redactWith (redactOctets t).length none (redactOctets t).toList) := rfl
  rw [unfolded, ← same, String.ofList_toList]

end MemoryDashboard.Sync
