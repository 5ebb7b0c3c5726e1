import MemoryDashboard.Text.Base64

/-! # Decoding base64 text

`base64` writes the UTF-8 bytes of a string three at a time, each group as four characters of the
standard alphabet, and pads a last group of one or two bytes with `=`. Read back by the standard
decoder (`unbase64`: four characters at a time, `=` only at the very end, nothing outside the
alphabet), the text gives the string again (`unbase64_base64`); and it holds no character but
those of the alphabet and the padding (`isBase64Char_of_mem_base64Chars`).
-/

namespace MemoryDashboard.Text

/-- The six-bit value of a character of the standard alphabet; none for any other character,
the padding `=` included. -/
def base64Value? (ch : Char) : Option Nat :=
  if 'A' ≤ ch ∧ ch ≤ 'Z' then some (ch.toNat - 'A'.toNat)
  else if 'a' ≤ ch ∧ ch ≤ 'z' then some (ch.toNat - 'a'.toNat + 26)
  else if '0' ≤ ch ∧ ch ≤ '9' then some (ch.toNat - '0'.toNat + 52)
  else if ch = '+' then some 62
  else if ch = '/' then some 63
  else none

/-- The characters base64 text is made of: the alphabet and the padding `=`. -/
def isBase64Char (ch : Char) : Bool :=
  (base64Value? ch).isSome || ch == '='

/-- The bytes of base64 characters, four at a time, as the standard decoder reads them: the last
group may end in one or two `=`, and any other character outside the alphabet is refused. -/
def unbase64Chars : List Char → Option (List Nat)
  | [] => some []
  | a :: b :: c :: d :: rest => do
    let va ← base64Value? a
    let vb ← base64Value? b
    if c = '=' ∧ d = '=' ∧ rest = [] then
      pure [(va * 64 + vb) / 16]
    else
      let vc ← base64Value? c
      if d = '=' ∧ rest = [] then
        let n := (va * 64 + vb) * 64 + vc
        pure [n / 1024, n / 4 % 256]
      else
        let vd ← base64Value? d
        let n := ((va * 64 + vb) * 64 + vc) * 64 + vd
        let more ← unbase64Chars rest
        pure (n / 65536 :: n / 256 % 256 :: n % 256 :: more)
  | _ => none

/-- The string whose UTF-8 bytes a base64 text encodes; none when the text is not base64 or its
bytes are not UTF-8. -/
def unbase64 (text : String) : Option String :=
  (unbase64Chars text.toList).bind fun bytes =>
    String.fromUTF8? (bytes.map UInt8.ofNat).toByteArray

/-! ### The alphabet -/

theorem base64Value?_base64Char : ∀ v < 64, base64Value? (base64Char v) = some v := by
  decide

theorem base64Value?_pad : base64Value? '=' = none := by decide

theorem base64Char_ne_pad (v : Nat) : base64Char (v % 64) ≠ '=' := by
  intro same
  have value := base64Value?_base64Char (v % 64) (Nat.mod_lt _ (by decide))
  rw [same, base64Value?_pad] at value
  cases value

theorem isBase64Char_base64Char (v : Nat) : isBase64Char (base64Char v) = true := by
  by_cases small : v < 64
  · simp [isBase64Char, base64Value?_base64Char v small]
  · have slash : base64Char v = '/' := by
      simp only [base64Char]
      rw [if_neg (by omega), if_neg (by omega), if_neg (by omega), if_neg (by omega)]
    rw [slash]
    decide

theorem isBase64Char_pad : isBase64Char '=' = true := by decide

/-- Every character `base64Chars` writes is one of the alphabet or the padding. -/
theorem isBase64Char_of_mem_base64Chars (bytes : List Nat) :
    ∀ ch ∈ base64Chars bytes, isBase64Char ch = true := by
  fun_induction base64Chars bytes with
  | case1 => simp
  | case2 a => simp [isBase64Char_base64Char, isBase64Char_pad]
  | case3 a b => simp [isBase64Char_base64Char, isBase64Char_pad]
  | case4 a b c rest _ ih =>
      intro ch mem
      simp only [List.cons_append, List.mem_cons, List.nil_append] at mem
      rcases mem with rfl | rfl | rfl | rfl | mem
      all_goals first | exact isBase64Char_base64Char _ | exact ih ch mem

/-- Base64 text holds only the alphabet and the padding. -/
theorem isBase64Char_of_mem_base64 (s : String) : ∀ ch ∈ (base64 s).toList, isBase64Char ch = true := by
  rw [base64, String.toList_ofList]
  exact isBase64Char_of_mem_base64Chars _

/-- In particular base64 text holds no single quote, so it can stand inside one. -/
theorem quote_not_mem_base64 (s : String) : '\'' ∉ (base64 s).toList := by
  intro mem
  have quote : isBase64Char '\'' = false := by decide
  rw [isBase64Char_of_mem_base64 s _ mem] at quote
  cases quote

/-! ### Decoding what was encoded -/

/-- Decoding the characters of some bytes gives the bytes back. -/
theorem unbase64Chars_base64Chars (bytes : List Nat) (small : ∀ b ∈ bytes, b < 256) :
    unbase64Chars (base64Chars bytes) = some bytes := by
  fun_induction base64Chars bytes with
  | case1 => rfl
  | case2 a =>
      -- one byte left: two characters and two pads
      have ha : a < 256 := small a (by simp)
      simp [unbase64Chars, base64Value?_base64Char _ (Nat.mod_lt _ (by decide : 0 < 64))]
      omega
  | case3 a b =>
      -- two bytes left: three characters and one pad, the third no pad itself
      have ha : a < 256 := small a (by simp)
      have hb : b < 256 := small b (by simp)
      simp [unbase64Chars, base64Value?_base64Char _ (Nat.mod_lt _ (by decide : 0 < 64)),
        base64Char_ne_pad]
      omega
  | case4 a b c rest _ ih =>
      -- a whole group: four characters, none of them a pad, then the rest
      have ha : a < 256 := small a (by simp)
      have hb : b < 256 := small b (by simp)
      have hc : c < 256 := small c (by simp)
      have more := ih (fun x mem => small x (by simp [mem]))
      simp [unbase64Chars, base64Value?_base64Char _ (Nat.mod_lt _ (by decide : 0 < 64)),
        base64Char_ne_pad, more]
      omega

example : base64Chars [112, 97, 105, 114] = "cGFpcg==".toList := by decide

/-- The loop of `ByteArray.toList` from index `i`, with `r` read so far in reverse. -/
theorem toList_loop (bs : ByteArray) (i : Nat) (r : List UInt8) :
    ByteArray.toList.loop bs i r = r.reverse ++ bs.data.toList.drop i := by
  fun_induction ByteArray.toList.loop bs i r with
  | case1 i r inside ih =>
      have index : i < bs.data.toList.length := by simpa using inside
      rw [ih, List.drop_eq_getElem_cons index]
      simp [ByteArray.get!, inside]
  | case2 i r beyond =>
      rw [List.drop_eq_nil_of_le (by simpa using Nat.le_of_not_lt beyond)]
      simp

theorem byteArray_toList (bs : ByteArray) : bs.toList = bs.data.toList := by
  rw [ByteArray.toList, toList_loop]
  simp

theorem toByteArray_toList (bs : ByteArray) : bs.toList.toByteArray = bs := by
  apply ByteArray.ext
  apply Array.toList_inj.mp
  rw [byteArray_toList, List.toList_data_toByteArray]

theorem fromUTF8?_toUTF8 (s : String) : String.fromUTF8? s.toUTF8 = some s := by
  simp [String.fromUTF8?, s.isValidUTF8]
  rfl

/-- The standard decoder gives back every string from its base64 text. -/
theorem unbase64_base64 (s : String) : unbase64 (base64 s) = some s := by
  have small : ∀ b ∈ s.toUTF8.toList.map UInt8.toNat, b < 256 := by
    intro b mem
    obtain ⟨x, -, rfl⟩ := List.mem_map.mp mem
    exact x.toNat_lt_size
  rw [unbase64, base64, String.toList_ofList, unbase64Chars_base64Chars _ small, Option.bind_some,
    List.map_map]
  simp only [Function.comp_def, UInt8.ofNat_toNat, List.map_id', toByteArray_toList]
  exact fromUTF8?_toUTF8 s

example : unbase64 "cGFpcg==" = some "pair" := by decide

end MemoryDashboard.Text
