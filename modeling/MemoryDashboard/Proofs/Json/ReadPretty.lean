import MemoryDashboard.Proofs.Json.ReadBack

/-! # Reading back a pretty object of texts

`pretty` writes an object on lines of its own: the opening brace; each member indented by two
blanks, as its key, a colon and a blank, and its value; a comma at the end of every member's line
but the last; and the closing brace alone on the last line. The reader skips blanks and line
breaks before every part, so it reads the object member by member as it reads the compact text
(`readMembers_textRest` follows `readMembers_rest`). An object whose values are texts and whose
keys increase is read back whole (`read_pretty_texts`). Conversely, an object read from any text
has increasing keys (`read_object_ascending`): the reader builds objects with `Members.ofList`,
and a scalar holds what its reader gave, never an object (`Read.readValue_scalar`).
-/

namespace MemoryDashboard.Json

/-- The members of an object whose values are texts. -/
def textMembers (pairs : List (String × String)) : Members := pairs.map fun (k, v) => (k, .str v)

/-- The characters `pretty` writes for a member whose value is a text, after the blanks that
indent its line. -/
def textMemberChars (p : String × String) : List Char :=
  (quote p.1).toList ++ ':' :: ' ' :: (quote p.2).toList

/-- The characters of the members after the first: each after a comma, a line break and its
indentation. -/
def textRestChars (rest : List (String × String)) : List Char :=
  rest.flatMap fun q => ',' :: '\n' :: ' ' :: ' ' :: textMemberChars q

theorem textRestChars_cons (q : String × String) (rest : List (String × String)) :
    textRestChars (q :: rest) = ',' :: '\n' :: ' ' :: ' ' :: (textMemberChars q ++ textRestChars rest) := by
  simp [textRestChars]

theorem prettyMembers_texts (p : String × String) (rest : List (String × String)) :
    (prettyMembers 1 (textMembers (p :: rest))).toList = ' ' :: ' ' :: (textMemberChars p ++ textRestChars rest) := by
  induction rest generalizing p with
  | nil => simp [textMembers, textRestChars, textMemberChars, prettyMembers, prettyAt, indent, str]
  | cons q qs ih =>
    have next := ih q
    simp only [textMembers, textRestChars, textMemberChars, str, List.map_cons] at next ⊢
    rw [prettyMembers]
    · simp [next, prettyAt, indent]
    · simp

theorem pretty_texts (p : String × String) (rest : List (String × String)) :
    (pretty (.object (textMembers (p :: rest)))).toList =
      '{' :: '\n' :: ' ' :: ' ' :: (textMemberChars p ++ textRestChars rest ++ ['\n', '}']) := by
  have members := prettyMembers_texts p rest
  simp only [textMembers, List.map_cons] at members ⊢
  simp [pretty, prettyAt, members, indent]

namespace Read

/-! ### Blanks between the parts -/

theorem skipBlank_skipBlank (c : Cursor) : skipBlank (skipBlank c) = skipBlank c := by
  fun_induction skipBlank c with
  | case1 c empty => exact skipBlank_of_head (by simp [empty])
  | case2 c ch rest h blank _ ih => exact ih
  | case3 c ch rest h settled => exact skipBlank_of_head (by simp_all)

theorem skipBlank_of_blank {c : Cursor} {ch : Char} {r : List Char} (h : c.rest = ch :: r)
    (blank : ch = ' ' ∨ ch = '\n') : skipBlank c = skipBlank c.advance := by
  rw [skipBlank]
  split
  · simp_all
  · next ch' _ hr =>
    rw [h] at hr
    cases hr
    rcases blank with rfl | rfl <;> simp

theorem skipBlank_blanks : ∀ (blanks : List Char) {c : Cursor} {r : List Char},
    (∀ ch ∈ blanks, ch = ' ' ∨ ch = '\n') → (∀ ch ∈ r.head?, ch ≠ ' ' ∧ ch ≠ '\n' ∧ ch ≠ '\t' ∧ ch ≠ '\r') →
    c.rest = blanks ++ r → (skipBlank c).rest = r := by
  intro blanks
  induction blanks with
  | nil =>
    intro c r _ settled h
    rw [skipBlank_of_head (by simpa [h] using settled), h]
    rfl
  | cons b bs ih =>
    intro c r blank settled h
    rw [skipBlank_of_blank h (blank b List.mem_cons_self)]
    exact ih (fun ch mem => blank ch (List.mem_cons_of_mem _ mem)) settled (by simp [h])

theorem readValue_skipBlank (fuel depth : Nat) (c : Cursor) :
    readValue (fuel + 1) depth (skipBlank c) = readValue (fuel + 1) depth c := by
  rw [readValue, readValue, skipBlank_skipBlank]

theorem readMembers_skipBlank (fuel depth : Nat) (first : Bool) (acc : LocatedMembers) (c : Cursor) :
    readMembers (fuel + 1) depth first acc (skipBlank c) = readMembers (fuel + 1) depth first acc c := by
  rw [readMembers, readMembers, skipBlank_skipBlank]

/-! ### Member by member -/

variable {depth : Nat}

theorem endsNumber_textRest (rest : List (String × String)) (tail : List Char) :
    EndsNumber (textRestChars rest ++ '\n' :: tail) := by
  cases rest <;> simp [EndsNumber, textRestChars]

/-- One member whose value is a text, read from its opening quote: the key, the colon, and the
value after the blank, before `tail`. -/
theorem readTextMember (depth : Nat) (k v : String) (fuel : Nat) {c : Cursor} {tail : List Char}
    (ends : EndsNumber tail) (enough : (quote v).length + 1 ≤ fuel)
    (h : c.rest = textMemberChars (k, v) ++ tail) :
    ∃ c₂ x c₁, readStringBody [] c.advance = .ok (k, c₂) ∧
      c₂.rest = ':' :: ' ' :: ((quote v).toList ++ tail) ∧
      readValue fuel (depth + 1) c₂.advance = .ok (x, c₁) ∧ x.toJson = .string v ∧
      x.firstFault? = none ∧ c₁.rest = tail := by
  rw [textMemberChars, quote_toList k] at h
  obtain ⟨c₂, keyRead, afterKey⟩ := readStringBody_quoted k.toList []
    (show c.advance.rest = k.toList.flatMap (fun ch => (escapeChar ch).toList) ++
      '"' :: ':' :: ' ' :: ((quote v).toList ++ tail) by simp [h])
  simp only [List.reverse_nil, List.nil_append, String.ofList_toList] at keyRead
  obtain ⟨f, rfl⟩ : ∃ f, fuel = f + 1 := ⟨fuel - 1, by omega⟩
  -- the value starts after the blank that follows the colon
  have skipped : (skipBlank c₂.advance).rest = (quote v).toList ++ tail :=
    skipBlank_blanks [' '] (by simp) (by simp [quote_toList]) (by simp [afterKey])
  have reads : ReadsCompact depth (.string v) := readsCompact_string v
  obtain ⟨x, c₁, run, value, fault, rest⟩ := reads (f + 1) (skipBlank c₂.advance) tail ends (by simp [compact]; omega) (by simp [compact, skipped])
  rw [readValue_skipBlank] at run
  exact ⟨c₂, x, c₁, keyRead, afterKey, run, value, fault, rest⟩

/-- A member after a comma and the blanks that follow it. -/
theorem readMembers_comma {fuel depth : Nat} {c c₁ c₂ : Cursor} {r r₁ r₂ : List Char}
    {acc : LocatedMembers} {x : Located} {key : String} (h : c.rest = ',' :: r)
    (quoted : (skipBlank c.advance).rest = '"' :: r₂)
    (keyRead : readStringBody [] (skipBlank c.advance).advance = .ok (key, c₂))
    (colon : c₂.rest = ':' :: r₁) (value : readValue fuel depth c₂.advance = .ok (x, c₁)) :
    readMembers (fuel + 1) depth false acc c =
      readMembers fuel depth false ((key, some c₂.position, x) :: acc) c₁ := by
  rw [readMembers, skipBlank_of_head (by simp [h])]
  simp [h, quoted, keyRead, skipBlank_of_head (c := c₂) (by simp [colon]), colon, value]

theorem readMembers_textRest (rest : List (String × String)) :
    ∀ (fuel : Nat) (acc : LocatedMembers) (c : Cursor) (tail : List Char),
      c.rest = textRestChars rest ++ '\n' :: '}' :: tail → (textRestChars rest).length + 1 ≤ fuel →
      ∃ xs c', readMembers fuel (depth + 1) false acc c = .ok (acc.reverse ++ xs, c') ∧
        Located.membersToJson xs = textMembers rest ∧ firstFaultOfMembers xs = none ∧
        c'.rest = '}' :: tail := by
  induction rest with
  | nil =>
    intro fuel acc c tail h enough
    obtain ⟨f, rfl⟩ : ∃ f, fuel = f + 1 := ⟨fuel - 1, by omega⟩
    have closing : (skipBlank c).rest = '}' :: tail :=
      skipBlank_blanks ['\n'] (by simp) (by simp) (by simpa [textRestChars] using h)
    rw [← readMembers_skipBlank, readMembers_close false acc closing]
    exact ⟨[], skipBlank c, by simp, rfl, rfl, closing⟩
  | cons q qs ih =>
    intro fuel acc c tail h enough
    obtain ⟨k, v⟩ := q
    obtain ⟨f, rfl⟩ : ∃ f, fuel = f + 1 := ⟨fuel - 1, by omega⟩
    rw [textRestChars_cons] at h enough
    simp only [List.length_cons, List.length_append, textMemberChars, String.length_toList] at enough
    have quoted : (skipBlank c.advance).rest = textMemberChars (k, v) ++ (textRestChars qs ++ '\n' :: '}' :: tail) :=
      skipBlank_blanks ['\n', ' ', ' '] (by simp) (by simp [textMemberChars, quote_toList]) (by simp [h])
    obtain ⟨c₂, x, c₁, keyRead, colon, run, value, fault, after⟩ :=
      readTextMember depth k v f (endsNumber_textRest qs _) (by omega) quoted
    obtain ⟨xs, c', run', values, faults, close⟩ :=
      ih f ((k, some c₂.position, x) :: acc) c₁ tail after (by omega)
    refine ⟨(k, some c₂.position, x) :: xs, c', ?_, by simp [Located.membersToJson, textMembers, value, values, str],
      by simp [firstFaultOfMembers, fault, faults], close⟩
    rw [readMembers_comma (by rw [h]; rfl) (by rw [quoted, textMemberChars, quote_toList]; rfl) keyRead colon run,
      run']
    simp

/-- The members of an object of texts, read after its opening brace up to the closing one. -/
theorem readMembers_texts (depth : Nat) (p : String × String) (rest : List (String × String)) (fuel : Nat)
    {c : Cursor} {tail : List Char}
    (h : c.rest = '\n' :: ' ' :: ' ' :: (textMemberChars p ++ textRestChars rest ++ '\n' :: '}' :: tail))
    (enough : (textMemberChars p ++ textRestChars rest).length + 2 ≤ fuel) :
    ∃ xs c', readMembers fuel (depth + 1) true [] c = .ok (xs, c') ∧
      Located.membersToJson xs = textMembers (p :: rest) ∧ firstFaultOfMembers xs = none ∧
      c'.rest = '}' :: tail := by
  obtain ⟨k, v⟩ := p
  obtain ⟨f, rfl⟩ : ∃ f, fuel = f + 1 := ⟨fuel - 1, by omega⟩
  simp only [List.length_cons, List.length_append, textMemberChars, String.length_toList] at enough
  have quoted : (skipBlank c).rest = textMemberChars (k, v) ++ (textRestChars rest ++ '\n' :: '}' :: tail) :=
    skipBlank_blanks ['\n', ' ', ' '] (by simp) (by simp [textMemberChars, quote_toList]) (by simp [h])
  obtain ⟨c₂, x, c₁, keyRead, colon, run, value, fault, after⟩ :=
    readTextMember depth k v f (endsNumber_textRest rest _) (by omega) quoted
  obtain ⟨xs, c', run', values, faults, close⟩ :=
    readMembers_textRest rest f [(k, some c₂.position, x)] c₁ tail after (by omega)
  refine ⟨(k, some c₂.position, x) :: xs, c', ?_,
    by simp [Located.membersToJson, textMembers, value, values, str],
    by simp [firstFaultOfMembers, fault, faults], close⟩
  rw [← readMembers_skipBlank, readMembers_first (by rw [quoted, textMemberChars, quote_toList]; rfl) keyRead
    colon run, run']
  simp

/-- A text read whole from its first value: the value, when nothing is wrong in it and the text
ends with it. -/
theorem read_of_readValue {text : String} {x : Located} {c : Cursor}
    (run : readValue (3 * text.length + 8) 128 (Cursor.ofString text) = .ok (x, c))
    (fault : x.firstFault? = none) (ended : c.rest = []) : read text = .ok x.toJson := by
  have finished : c.finish = .ok () := by simp [Cursor.finish, skipBlank_of_head (c := c) (by simp [ended]), ended]
  unfold read readLocated readPrefix
  rw [run]
  simp [fault, finished, Except.map]

end Read

open Read in
/-- An object of texts whose keys increase is read back from its pretty text. -/
theorem read_pretty_texts {pairs : List (String × String)} (ascending : (pairs.map Prod.fst).Pairwise (· < ·)) :
    read (pretty (.object (textMembers pairs))) = .ok (.object (textMembers pairs)) := by
  have sameKeys : (textMembers pairs).map Prod.fst = pairs.map Prod.fst := by
    simp [textMembers, Function.comp_def]
  cases pairs with
  | nil =>
    have text : (Cursor.ofString (pretty (.object (textMembers [])))).rest = ['{', '}'] := by
      simp [Cursor.ofString, pretty, prettyAt, textMembers]
    have closed : (Cursor.ofString (pretty (.object (textMembers [])))).advance.rest = ['}'] := by
      simp [text]
    have run : readValue (3 * (pretty (.object (textMembers []))).length + 8) 128
        (Cursor.ofString (pretty (.object (textMembers [])))) = _ :=
      readValue_object (by rw [text]) (by omega) (readMembers_close true [] closed) closed
    rw [read_of_readValue run (by simp [Located.firstFault?, firstFaultOfMembers]) (by simp [text])]
    simp [Located.toJson, Located.membersToJson, textMembers, Members.ofList]
  | cons p rest =>
    have text := pretty_texts p rest
    have opened : (Cursor.ofString (pretty (.object (textMembers (p :: rest))))).advance.rest =
        '\n' :: ' ' :: ' ' :: (textMemberChars p ++ textRestChars rest ++ '\n' :: '}' :: []) := by
      simp [Cursor.ofString, text]
    obtain ⟨xs, c₁, members, values, faults, close⟩ := readMembers_texts 126 p rest
      (3 * (pretty (.object (textMembers (p :: rest)))).length + 7) opened
      (by rw [← String.length_toList, text]; simp only [List.length_cons, List.length_append]; omega)
    have run : readValue (3 * (pretty (.object (textMembers (p :: rest)))).length + 8) 128
        (Cursor.ofString (pretty (.object (textMembers (p :: rest))))) = _ :=
      readValue_object text (by omega) members close
    rw [read_of_readValue run (by simp [Located.firstFault?, faults]) (by simp [close])]
    simp [Located.toJson, values, Members.ofList_of_ascending (sameKeys ▸ ascending)]

namespace Read

/-- What a scalar reader gives through `map` is canonical when the map only builds canonical
values. -/
theorem canonical_of_map {α : Type} {r : Except ReadError α} {f : α → Json × Cursor}
    (canonical : ∀ a, Canonical (f a).1) : ∀ v c, r.map f = .ok (v, c) → Canonical v := by
  intro v c read
  cases r with
  | error e => cases read
  | ok a =>
    have built : f a = (v, c) := by simpa [Except.map] using read
    simpa [built] using canonical a

/-- A scalar the reader gives holds a canonical value: it is null, a boolean, a number or a text,
never a container. -/
theorem readValue_scalar {fuel depth : Nat} {c c' : Cursor} {v : Json} {s e : Option TextPosition}
    (run : readValue fuel depth c = .ok (.scalar v s e, c')) : Canonical v := by
  cases fuel with
  | zero =>
    rw [readValue_zero] at run
    cases run
  | succ f =>
    rw [readValue] at run
    split at run <;> beta_reduce at run <;> split at run
    -- after a digit the number reader's result is wrapped one level further down
    case' h_9.isTrue | h_9.isFalse => split at run
    all_goals first
      -- a reader that stopped gives no value
      | (cases run; done)
      -- a container, marked too deep or not, is no scalar
      | (simp only [tooDeep] at run; split at run <;> cases run)
      -- a scalar holds what its reader gave, and the readers give canonical values
      | (cases run
         rename_i found
         first
           | exact canonical_of_map (fun _ => by constructor) _ _ found
           | cases found)

end Read

/-- An object read from a text has its keys in increasing order. -/
theorem read_object_ascending {text : String} {members : Members}
    (read : Json.read text = .ok (.object members)) : (members.map Prod.fst).Pairwise (· < ·) := by
  obtain ⟨x, c, prefixRead, fault, -, json⟩ := Read.read_eq_ok read
  cases x with
  | scalar v s e =>
    have canonical : Canonical v := Read.readValue_scalar prefixRead
    rw [Located.toJson] at json
    subst json
    cases canonical with
    | object ascending => exact ascending
  | object located =>
    rw [Located.toJson, Json.object.injEq] at json
    rw [← json]
    exact Members.ofList_ascending _
  | array | broken => simp [Located.toJson] at json
  | deep => simp [Located.firstFault?] at fault

end MemoryDashboard.Json
