import MemoryDashboard.Proofs.Text.Lower
import MemoryDashboard.Text.Label
import Mathlib.Data.List.Chain

/-! # Normalizing a text twice

Texts are compared and searched in normal form (`normalize`): every run of blanks becomes one
space, blanks at either end go, and the text is lowered with the full case mapping. The main
statement is that the normal form is stable: `normalize (normalize s) = normalize s`
(`normalize_normalize`).

Two facts carry it. Collapsing and trimming leave a text whose blanks are single spaces between
non-blank characters (`Spaced`), and lowering keeps that shape, since it writes for a blank the
blank itself and for any other character only non-blank ones (`LowerImage`); so collapsing and
trimming again change nothing. And everything lowering writes is left as it is by lowering once
more and is not the capital sigma, so the final-sigma rule has nothing left to act on
(`lowerList_of_fixed`). Both rest on checks of the case table: every character a run of it
writes is such a character (`lowerRuns_images`), and no blank is moved by it
(`lowerChar_of_blank`).
-/

namespace MemoryDashboard.Text

/-- Every character a run of the lower-case table writes is a character that lowering leaves as
it is, not blank and not the capital sigma. -/
theorem lowerRuns_images : ∀ r ∈ lowerRuns.toList, ∀ j < (r.last - r.first) / r.stride + 1,
    (((r.first + j * r.stride : Nat) : Int) + r.delta).toNat.isValidChar ∧
      (((r.first + j * r.stride : Nat) : Int) + r.delta).toNat ≠ 0x3A3 ∧
      isBlank (Char.ofNat (((r.first + j * r.stride : Nat) : Int) + r.delta).toNat) = false ∧
      lowerChar (Char.ofNat (((r.first + j * r.stride : Nat) : Int) + r.delta).toNat) =
        [Char.ofNat (((r.first + j * r.stride : Nat) : Int) + r.delta).toNat] := by
  decide +kernel

/-- The code points of the blank characters. -/
theorem blank_code {c : Char} (blank : isBlank c = true) :
    c.toNat ∈ [0x9, 0xA, 0xB, 0xC, 0xD, 0x20, 0x85, 0xA0, 0x1680, 0x2000, 0x2001, 0x2002, 0x2003,
      0x2004, 0x2005, 0x2006, 0x2007, 0x2008, 0x2009, 0x200A, 0x2028, 0x2029, 0x202F, 0x205F,
      0x3000] := by
  unfold isBlank at blank
  simp only [Bool.or_eq_true, Bool.and_eq_true, decide_eq_true_eq] at blank
  simp only [List.mem_cons, List.not_mem_nil, or_false]
  omega

/-- Lowering leaves every blank as it is. -/
theorem lowerChar_of_blank {c : Char} (blank : isBlank c = true) : lowerChar c = [c] := by
  have table : ∀ n ∈ [0x9, 0xA, 0xB, 0xC, 0xD, 0x20, 0x85, 0xA0, 0x1680, 0x2000, 0x2001, 0x2002,
      0x2003, 0x2004, 0x2005, 0x2006, 0x2007, 0x2008, 0x2009, 0x200A, 0x2028, 0x2029, 0x202F,
      0x205F, 0x3000], lowerChar (Char.ofNat n) = [Char.ofNat n] := by
    decide +kernel
  simpa only [Char.ofNat_toNat] using table c.toNat (blank_code blank)

/-! ### Single spaces between words -/

/-- Two neighbours that are not both blank. -/
def NotBothBlank (a b : Char) : Prop := isBlank a = false ∨ isBlank b = false

/-- Text whose blanks are single spaces between non-blank characters: what collapsing blank runs
and trimming leave. -/
structure Spaced (cs : List Char) : Prop where
  spaces : ∀ c ∈ cs, isBlank c = true → c = ' '
  apart : cs.IsChain NotBothBlank
  first : ∀ c ∈ cs.head?, isBlank c = false
  last : ∀ c ∈ cs.getLast?, isBlank c = false

theorem collapseBlanksAfter_spaces : ∀ (inBlank : Bool) (cs : List Char),
    ∀ c ∈ collapseBlanksAfter inBlank cs, isBlank c = true → c = ' '
  | _, [] => by simp [collapseBlanksAfter]
  | inBlank, d :: rest => by
      intro c member blank
      unfold collapseBlanksAfter at member
      split at member
      · split at member
        · exact collapseBlanksAfter_spaces true rest c member blank
        · rcases List.mem_cons.mp member with rfl | later
          · rfl
          · exact collapseBlanksAfter_spaces true rest c later blank
      · rcases List.mem_cons.mp member with rfl | later
        · simp_all
        · exact collapseBlanksAfter_spaces false rest c later blank

/-- Collapsing writes no two blanks side by side, and after a blank it starts with a non-blank. -/
theorem collapseBlanksAfter_apart : ∀ (inBlank : Bool) (cs : List Char),
    (collapseBlanksAfter inBlank cs).IsChain NotBothBlank ∧
      (inBlank = true → ∀ c ∈ (collapseBlanksAfter inBlank cs).head?, isBlank c = false)
  | _, [] => by simp [collapseBlanksAfter]
  | inBlank, d :: rest => by
      obtain ⟨restApart, restHead⟩ := collapseBlanksAfter_apart true rest
      obtain ⟨plainApart, -⟩ := collapseBlanksAfter_apart false rest
      unfold collapseBlanksAfter
      by_cases blank : isBlank d = true
      · rw [if_pos blank]
        by_cases already : inBlank = true
        · rw [if_pos already]
          exact ⟨restApart, fun _ => restHead rfl⟩
        · rw [if_neg already]
          refine ⟨restApart.cons fun c member => .inr (restHead rfl c member), ?_⟩
          intro inside
          exact absurd inside already
      · rw [if_neg blank]
        refine ⟨plainApart.cons fun c _ => .inl (by simpa using blank), ?_⟩
        intro _ c member
        obtain rfl : c = d := by simpa using member.symm
        simpa using blank

theorem head?_dropWhile_blank (cs : List Char) :
    ∀ c ∈ (cs.dropWhile isBlank).head?, isBlank c = false := by
  intro c member
  have found := List.head?_dropWhile_not isBlank cs
  rw [Option.mem_def.mp member] at found
  exact found

theorem trim_toList (s : String) :
    (trim s).toList = ((s.toList.dropWhile isBlank).reverse.dropWhile isBlank).reverse := by
  simp [trim]

/-- Trimming keeps a piece of the text from one place on. -/
theorem trim_isInfix (s : String) : (trim s).toList <:+: s.toList := by
  rw [trim_toList]
  have back := (List.dropWhile_suffix isBlank : (s.toList.dropWhile isBlank).reverse.dropWhile
    isBlank <:+ (s.toList.dropWhile isBlank).reverse).reverse
  rw [List.reverse_reverse] at back
  exact back.isInfix.trans (List.dropWhile_suffix isBlank).isInfix

theorem trim_first (s : String) : ∀ c ∈ (trim s).toList.head?, isBlank c = false := by
  intro c member
  rw [trim_toList, List.head?_reverse] at member
  -- the last character kept is the first non-blank from the front
  obtain ⟨ws, rest⟩ := (List.dropWhile_suffix isBlank : (s.toList.dropWhile isBlank).reverse.dropWhile
    isBlank <:+ (s.toList.dropWhile isBlank).reverse)
  have kept : ((s.toList.dropWhile isBlank).reverse.dropWhile isBlank) ≠ [] := by
    intro empty
    rw [empty] at member
    cases member
  have same : ((s.toList.dropWhile isBlank).reverse.dropWhile isBlank).getLast? =
      ((s.toList.dropWhile isBlank).reverse).getLast? := by
    conv => rhs; rw [← rest]
    rw [List.getLast?_append, List.getLast?_eq_some_getLast kept]
    rfl
  rw [same, List.getLast?_reverse] at member
  exact head?_dropWhile_blank _ c member

theorem trim_last (s : String) : ∀ c ∈ (trim s).toList.getLast?, isBlank c = false := by
  intro c member
  rw [trim_toList, List.getLast?_reverse] at member
  exact head?_dropWhile_blank _ c member

theorem spaced_trim_collapse (s : String) :
    Spaced (trim (String.ofList (collapseBlanks s.toList))).toList := by
  have piece := trim_isInfix (String.ofList (collapseBlanks s.toList))
  rw [String.toList_ofList] at piece
  exact {
    spaces := fun c member => collapseBlanksAfter_spaces false _ c (piece.subset member)
    apart := List.IsChain.infix (collapseBlanksAfter_apart false _).1 piece
    first := trim_first _
    last := trim_last _ }

/-- Collapsing changes nothing in text whose blanks are single spaces. -/
theorem collapseBlanksAfter_eq_self : ∀ (inBlank : Bool) (cs : List Char),
    (∀ c ∈ cs, isBlank c = true → c = ' ') → cs.IsChain NotBothBlank →
      (inBlank = true → ∀ c ∈ cs.head?, isBlank c = false) → collapseBlanksAfter inBlank cs = cs
  | _, [], _, _, _ => rfl
  | inBlank, d :: rest, spaces, apart, fresh => by
      have restSpaces : ∀ c ∈ rest, isBlank c = true → c = ' ' :=
        fun c member => spaces c (List.mem_cons_of_mem d member)
      obtain ⟨next, restApart⟩ := List.isChain_cons.mp apart
      unfold collapseBlanksAfter
      by_cases blank : isBlank d = true
      · -- a blank is a space standing alone, so the text after it starts with a non-blank
        have notAfter : inBlank = false := by
          cases inBlank with
          | false => rfl
          | true => simp [fresh rfl d (by simp)] at blank
        have after : ∀ c ∈ rest.head?, isBlank c = false := fun c member =>
          (next c member).resolve_left (by simp [blank])
        rw [if_pos blank, if_neg (by simp [notAfter]),
          collapseBlanksAfter_eq_self true rest restSpaces restApart fun _ => after,
          spaces d List.mem_cons_self blank]
      · rw [if_neg blank, collapseBlanksAfter_eq_self false rest restSpaces restApart nofun]

theorem dropWhile_blank_of_first {cs : List Char} (first : ∀ c ∈ cs.head?, isBlank c = false) :
    cs.dropWhile isBlank = cs := by
  cases cs with
  | nil => rfl
  | cons d rest => simp [first d rfl]

theorem Spaced.collapse {cs : List Char} (spaced : Spaced cs) : collapseBlanks cs = cs :=
  collapseBlanksAfter_eq_self false cs spaced.spaces spaced.apart nofun

theorem Spaced.trim {cs : List Char} (spaced : Spaced cs) :
    Text.trim (String.ofList cs) = String.ofList cs := by
  rw [← String.toList_inj, trim_toList, String.toList_ofList,
    dropWhile_blank_of_first spaced.first,
    dropWhile_blank_of_first (by simpa using spaced.last), List.reverse_reverse]

/-! ### Lowering one character -/

theorem lowerChar_ne_nil (c : Char) : lowerChar c ≠ [] := by
  unfold lowerChar
  split
  · rename_i cs expanded
    obtain ⟨-, rfl⟩ := lowerExpansions_lookup expanded
    simp
  · split <;> simp

/-- A character that lowering leaves as it is, which the final-sigma rule does not touch. -/
def LowerFixed (d : Char) : Prop := d ≠ capitalSigma ∧ lowerChar d = [d]

theorem lowerFixed_of_run {c : Char} {n : Nat} (mapped : mapByRuns lowerRuns c.toNat = some n) :
    LowerFixed (Char.ofNat n) ∧ isBlank (Char.ofNat n) = false := by
  obtain ⟨r, member, low, high, onStride, rfl⟩ := mapByRuns_eq_some mapped
  -- the character is the run's `j`-th, and the table check covers every such image
  have back : r.first + (c.toNat - r.first) / r.stride * r.stride = c.toNat := by
    rw [Nat.div_mul_cancel (Nat.dvd_of_mod_eq_zero onStride)]
    omega
  have within : (c.toNat - r.first) / r.stride < (r.last - r.first) / r.stride + 1 :=
    Nat.lt_succ_of_le (Nat.div_le_div_right (by omega))
  have image := lowerRuns_images r (Array.mem_toList_iff.mpr member) _ within
  rw [back] at image
  obtain ⟨valid, notSigma, notBlank, fixed⟩ := image
  refine ⟨⟨fun same => notSigma (eq_toNat_of_ofNat_eq same (by decide)), fixed⟩, notBlank⟩

/-- The characters of a code point that lowering leaves as it is, neither blank nor the capital
sigma. -/
theorem lowerFixed_of_code {n : Nat} (notSigma : n ≠ 0x3A3)
    (fixed : lowerChar (Char.ofNat n) = [Char.ofNat n]) (plain : isBlank (Char.ofNat n) = false) :
    LowerFixed (Char.ofNat n) ∧ isBlank (Char.ofNat n) = false := by
  refine ⟨⟨fun same => ?_, fixed⟩, plain⟩
  have code := eq_toNat_of_ofNat_eq same (by decide)
  exact notSigma code

theorem lowerFixed_expansion : ∀ d ∈ [Char.ofNat 0x69, Char.ofNat 0x307],
    LowerFixed d ∧ isBlank d = false := by
  have table : ∀ n ∈ [0x69, 0x307], n ≠ 0x3A3 ∧ lowerChar (Char.ofNat n) = [Char.ofNat n] ∧
      isBlank (Char.ofNat n) = false := by
    decide +kernel
  intro d listed
  obtain ⟨n, code, rfl⟩ : ∃ n ∈ [0x69, 0x307], d = Char.ofNat n := by simpa using listed
  obtain ⟨notSigma, fixed, plain⟩ := table n code
  exact lowerFixed_of_code notSigma fixed plain

/-- What lowering writes for a non-blank character is non-blank and stays as it is. -/
theorem mem_lowerChar_of_not_blank {c d : Char} (plain : isBlank c = false)
    (mem : d ∈ lowerChar c) : LowerFixed d ∧ isBlank d = false := by
  unfold lowerChar at mem
  split at mem
  · rename_i cs expanded
    obtain ⟨-, rfl⟩ := lowerExpansions_lookup expanded
    exact lowerFixed_expansion d (by simpa using mem)
  · rename_i unexpanded
    split at mem
    · rename_i n mapped
      rw [List.mem_singleton.mp mem]
      exact lowerFixed_of_run mapped
    · rename_i unmapped
      rw [List.mem_singleton.mp mem]
      refine ⟨⟨?_, ?_⟩, plain⟩
      · -- the capital sigma is mapped by a run
        rintro rfl
        have sigmaMapped : mapByRuns lowerRuns capitalSigma.toNat = some 0x3C3 := by decide +kernel
        rw [sigmaMapped] at unmapped
        cases unmapped
      · simp [lowerChar, unexpanded, unmapped]

/-- What lowering writes for one character of a text: something, made only of characters that
lowering leaves as they are, blank exactly when the character is, and a blank kept as it is. -/
structure LowerImage (c : Char) (img : List Char) : Prop where
  nonempty : img ≠ []
  fixed : ∀ d ∈ img, LowerFixed d
  sameBlank : ∀ d ∈ img, isBlank d = isBlank c
  keepsBlank : isBlank c = true → img = [c]

theorem lowerImage_lowerChar {c : Char} (notSigma : c ≠ capitalSigma) :
    LowerImage c (lowerChar c) := by
  by_cases blank : isBlank c = true
  · rw [lowerChar_of_blank blank]
    refine ⟨by simp, ?_, ?_, fun _ => rfl⟩
    · intro d mem
      rw [List.mem_singleton.mp mem]
      exact ⟨notSigma, lowerChar_of_blank blank⟩
    · intro d mem
      rw [List.mem_singleton.mp mem]
  · have plain : isBlank c = false := by simpa using blank
    refine ⟨lowerChar_ne_nil c, ?_, ?_, fun blank' => absurd blank' blank⟩
    · exact fun d mem => (mem_lowerChar_of_not_blank plain mem).1
    · intro d mem
      rw [(mem_lowerChar_of_not_blank plain mem).2, plain]

theorem lowerImage_sigma : ∀ small ∈ [Char.ofNat 0x3C2, Char.ofNat 0x3C3],
    LowerImage capitalSigma [small] := by
  have table : ∀ n ∈ [0x3C2, 0x3C3], n ≠ 0x3A3 ∧ lowerChar (Char.ofNat n) = [Char.ofNat n] ∧
      isBlank (Char.ofNat n) = false := by
    decide +kernel
  have notBlank : isBlank capitalSigma = false := by decide +kernel
  intro small listed
  obtain ⟨n, code, rfl⟩ : ∃ n ∈ [0x3C2, 0x3C3], small = Char.ofNat n := by simpa using listed
  obtain ⟨notSigma, fixed', plain⟩ := table n code
  obtain ⟨fixed, plain'⟩ := lowerFixed_of_code notSigma fixed' plain
  have same : isBlank (Char.ofNat n) = isBlank capitalSigma := plain'.trans notBlank.symm
  refine ⟨by simp, ?_, ?_, fun blank => absurd blank (by simp [notBlank])⟩
  · intro d mem
    rw [List.mem_singleton.mp mem]
    exact fixed
  · intro d mem
    rw [List.mem_singleton.mp mem]
    exact same

/-- Lowering a text writes an image for its first character, then lowers the rest. -/
theorem lowerList_cons (before : List Char) (c : Char) (rest : List Char) :
    ∃ img, LowerImage c img ∧ lowerList before (c :: rest) = img ++ lowerList (c :: before) rest := by
  refine ⟨_, ?_, rfl⟩
  by_cases sigma : c = capitalSigma
  · rw [if_pos sigma, sigma]
    split
    · exact lowerImage_sigma _ (by simp)
    · exact lowerImage_sigma _ (by simp)
  · rw [if_neg sigma]
    exact lowerImage_lowerChar sigma

/-! ### Lowering a text -/

theorem lowerList_fixed : ∀ (before cs : List Char), ∀ d ∈ lowerList before cs, LowerFixed d
  | _, [] => nofun
  | before, c :: rest => by
      obtain ⟨img, image, written⟩ := lowerList_cons before c rest
      rw [written]
      intro d mem
      rcases List.mem_append.mp mem with inImage | later
      · exact image.fixed d inImage
      · exact lowerList_fixed (c :: before) rest d later

/-- Text made of characters that lowering leaves as they are lowers to itself. -/
theorem lowerList_of_fixed : ∀ (before ds : List Char), (∀ d ∈ ds, LowerFixed d) →
    lowerList before ds = ds
  | _, [], _ => rfl
  | before, d :: rest, fixed => by
      obtain ⟨notSigma, same⟩ := fixed d List.mem_cons_self
      simp only [lowerList, if_neg notSigma, same, List.singleton_append]
      rw [lowerList_of_fixed (d :: before) rest fun e mem => fixed e (List.mem_cons_of_mem d mem)]

theorem mem_lowerList : ∀ (before cs : List Char), ∀ d ∈ lowerList before cs,
    ∃ c ∈ cs, isBlank d = isBlank c ∧ (isBlank c = true → d = c)
  | _, [] => nofun
  | before, c :: rest => by
      obtain ⟨img, image, written⟩ := lowerList_cons before c rest
      rw [written]
      intro d mem
      rcases List.mem_append.mp mem with inImage | later
      · refine ⟨c, List.mem_cons_self, image.sameBlank d inImage, fun blank => ?_⟩
        rw [image.keepsBlank blank] at inImage
        exact List.mem_singleton.mp inImage
      · obtain ⟨e, member, same⟩ := mem_lowerList (c :: before) rest d later
        exact ⟨e, List.mem_cons_of_mem c member, same⟩

theorem head?_lowerList : ∀ (before cs : List Char), ∀ d ∈ (lowerList before cs).head?,
    ∃ c ∈ cs.head?, isBlank d = isBlank c
  | _, [] => nofun
  | before, c :: rest => by
      obtain ⟨img, image, written⟩ := lowerList_cons before c rest
      rw [written]
      intro d mem
      obtain ⟨first, others, rfl⟩ := List.exists_cons_of_ne_nil image.nonempty
      rw [List.cons_append, List.head?_cons, Option.mem_some_iff] at mem
      exact ⟨c, rfl, mem ▸ image.sameBlank first List.mem_cons_self⟩

theorem lowerList_ne_nil {before cs : List Char} (filled : cs ≠ []) : lowerList before cs ≠ [] := by
  obtain ⟨c, rest, rfl⟩ := List.exists_cons_of_ne_nil filled
  obtain ⟨img, image, written⟩ := lowerList_cons before c rest
  rw [written]
  exact List.append_ne_nil_of_left_ne_nil image.nonempty _

theorem getLast?_lowerList : ∀ (before cs : List Char), ∀ d ∈ (lowerList before cs).getLast?,
    ∃ c ∈ cs.getLast?, isBlank d = isBlank c
  | _, [] => nofun
  | before, c :: rest => by
      obtain ⟨img, image, written⟩ := lowerList_cons before c rest
      rw [written]
      intro d mem
      cases rest with
      | nil =>
          -- the last character written is the last of the first character's image
          rw [show lowerList (c :: before) [] = [] from rfl, List.append_nil] at mem
          exact ⟨c, rfl, image.sameBlank d (List.mem_of_getLast? mem)⟩
      | cons e more =>
          have written' : lowerList (c :: before) (e :: more) ≠ [] :=
            lowerList_ne_nil (List.cons_ne_nil e more)
          rw [List.getLast?_append, List.getLast?_eq_some_getLast written'] at mem
          obtain ⟨last, inRest, same⟩ := getLast?_lowerList (c :: before) (e :: more) d
            (by rw [List.getLast?_eq_some_getLast written']; exact mem)
          exact ⟨last, by simpa using inRest, same⟩

/-- Lowering writes two blanks side by side only where the text had them. -/
theorem lowerList_apart : ∀ (before cs : List Char), cs.IsChain NotBothBlank →
    (lowerList before cs).IsChain NotBothBlank
  | _, [], _ => .nil
  | before, c :: rest, apart => by
      obtain ⟨next, restApart⟩ := List.isChain_cons.mp apart
      obtain ⟨img, image, written⟩ := lowerList_cons before c rest
      rw [written]
      refine (List.IsChain.append ?_ (lowerList_apart (c :: before) rest restApart) ?_)
      · -- a blank's image is itself; any other image has no blank at all
        by_cases blank : isBlank c = true
        · rw [image.keepsBlank blank]
          exact .singleton c
        · have plain : ∀ d ∈ img, isBlank d = false := fun d mem => by
            rw [image.sameBlank d mem]
            simpa using blank
          exact (List.pairwise_of_forall_mem_list fun a memA _ _ => .inl (plain a memA)).isChain
      · intro x lastImage y firstRest
        obtain ⟨e, firstOfRest, sameY⟩ := head?_lowerList (c :: before) rest y firstRest
        have sameX := image.sameBlank x (List.mem_of_getLast? lastImage)
        rcases next e firstOfRest with plainC | plainE
        · exact .inl (sameX.trans plainC)
        · exact .inr (sameY.trans plainE)

/-- Lowering keeps blanks as single spaces between non-blank characters. -/
theorem Spaced.lowerList {cs : List Char} (spaced : Spaced cs) (before : List Char) :
    Spaced (Text.lowerList before cs) where
  spaces d mem blank := by
    obtain ⟨c, member, same, kept⟩ := mem_lowerList before cs d mem
    rw [kept (same ▸ blank)]
    exact spaced.spaces c member (same ▸ blank)
  apart := lowerList_apart before cs spaced.apart
  first d mem := by
    obtain ⟨c, member, same⟩ := head?_lowerList before cs d mem
    exact same.trans (spaced.first c member)
  last d mem := by
    obtain ⟨c, member, same⟩ := getLast?_lowerList before cs d mem
    exact same.trans (spaced.last c member)

theorem normalize_eq (s : String) :
    normalize s =
      String.ofList (lowerList [] (trim (String.ofList (collapseBlanks s.toList))).toList) := rfl

/-- Normalizing twice is normalizing once: blanks are already single spaces inside the text
and none stands at its ends, and lowering writes only characters that lowering keeps. -/
theorem normalize_normalize (s : String) : normalize (normalize s) = normalize s := by
  have spaced := (spaced_trim_collapse s).lowerList []
  rw [normalize_eq (normalize s), normalize_eq s, String.toList_ofList, spaced.collapse,
    spaced.trim, String.toList_ofList,
    lowerList_of_fixed [] _ (lowerList_fixed [] _)]

end MemoryDashboard.Text
