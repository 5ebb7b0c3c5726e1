import MemoryDashboard.Proofs.Feed.LastWins
import MemoryDashboard.Proofs.Feed.Signature
import MemoryDashboard.Proofs.Feed.Wire

/-! # What a key identifies

An item's key is its lowered kind, a colon and its signature (`FeedItem.key`). The merges keep
one item per key, and decoding makes an item a summary when its kind is `session_summary` up to
ASCII case (`ItemRecord.toItem`).

Lowering writes a colon only where the kind had one, so where kinds hold no colon a key splits
back at its first colon into the lowered kind and the signature (`key_eq_iff`). On ASCII text
lowering is the ASCII lower case, and no character outside ASCII lowers onto a letter of
`session_summary`, so a kind lowers to `session_summary` exactly when it is that kind up to
ASCII case (`lower_eq_summaryKind_iff`). Items of one key are then of one variant, and neither
merge replaces a summary by an observation or the other way round (`key_identifies_plain_kinds`).

A colon in a kind breaks this: the summary `a:b` and the observation `b` of kind
`session_summary:a` share the key `session_summary:a:b`, and appending the observation drops the
summary (`colon_kinds_share_key`).
-/

namespace MemoryDashboard

namespace Feed

open Text

/-! ### Lowering onto the summaries' kind -/

theorem summaryKind_toList :
    summaryKind.toList = ['s', 'e', 's', 's', 'i', 'o', 'n', '_', 's', 'u', 'm', 'm', 'a', 'r', 'y'] := by
  simp [summaryKind]

/-- The summaries' kind is written in ASCII lower case, without a null character. -/
theorem summaryKind_chars : ∀ d ∈ summaryKind.toList, 0 < d.toNat ∧ d.toNat < 128 ∧ d.toLower = d := by
  rw [summaryKind_toList]
  simp

/-- Only the run of the ASCII capitals moves a character onto a letter of the summaries' kind. -/
theorem lowerRuns_onto_summaryKind : ∀ r ∈ lowerRuns.toList, ∀ t ∈ summaryKind.toList.map Char.toNat,
    (r.first : Int) ≤ t - r.delta ∧ (t : Int) - r.delta ≤ r.last → r.last < 128 := by
  rw [summaryKind_toList]
  decide +kernel

/-- A character that lowers onto letters of the summaries' kind is ASCII. -/
theorem ascii_of_lowerChar_summaryKind {c : Char} (into : ∀ d ∈ lowerChar c, d ∈ summaryKind.toList) :
    c.toNat < 128 := by
  unfold lowerChar at into
  split at into
  · -- the dotted capital I lowers to a combining dot, which is not ASCII
    rename_i cs expanded
    obtain ⟨-, rfl⟩ := lowerExpansions_lookup expanded
    have dot := into (Char.ofNat 0x307) (by simp)
    exact absurd (summaryKind_chars _ dot).2.1 (by decide)
  · split at into
    · rename_i n mapped
      obtain ⟨r, member, low, high, -, rfl⟩ := mapByRuns_eq_some mapped
      have hit := into _ List.mem_cons_self
      obtain ⟨positive, -, -⟩ := summaryKind_chars _ hit
      have landed := eq_toNat_of_ofNat_eq rfl positive.ne'
      have onto := lowerRuns_onto_summaryKind r (Array.mem_toList_iff.mpr member) _
        (List.mem_map.mpr ⟨_, hit, landed.symm⟩) ⟨by omega, by omega⟩
      omega
    · exact (summaryKind_chars c (into c List.mem_cons_self)).2.1

/-- Text that lowers onto letters of the summaries' kind is ASCII. -/
theorem ascii_of_lowerList_summaryKind : ∀ (before cs : List Char),
    (∀ d ∈ lowerList before cs, d ∈ summaryKind.toList) → ∀ c ∈ cs, c.toNat < 128
  | _, [], _ => by simp
  | before, c :: rest, into => by
      simp only [lowerList, List.mem_append] at into
      intro d member
      rcases List.mem_cons.mp member with rfl | later
      · by_cases sigma : d = capitalSigma
        · -- a capital sigma lowers to a small sigma, which is not ASCII
          have small : ¬ (Char.ofNat 0x3C2).toNat < 128 ∧ ¬ (Char.ofNat 0x3C3).toNat < 128 := by
            decide
          by_cases final : (casedAhead before && !casedAhead rest) = true
          · have lowered := into (Char.ofNat 0x3C2) (Or.inl (by simp [sigma, final]))
            exact absurd (summaryKind_chars _ lowered).2.1 small.1
          · have lowered := into (Char.ofNat 0x3C3) (Or.inl (by simp [sigma, final]))
            exact absurd (summaryKind_chars _ lowered).2.1 small.2
        · exact ascii_of_lowerChar_summaryKind fun e mem => into e (Or.inl (by rw [if_neg sigma]; exact mem))
      · exact ascii_of_lowerList_summaryKind (c :: before) rest (fun e mem => into e (Or.inr mem)) d later

/-- A character whose ASCII lower case is a letter of the summaries' kind is ASCII. -/
theorem ascii_of_toLower_summaryKind {c : Char} (lowered : c.toLower ∈ summaryKind.toList) :
    c.toNat < 128 := by
  by_cases upper : c.val ≥ 'A'.val ∧ c.val ≤ 'Z'.val
  · -- an ASCII capital
    have capital : c.val.toNat ≤ 'Z'.val.toNat := UInt32.le_iff_toNat_le.mp upper.2
    exact Nat.lt_of_le_of_lt capital (by decide)
  · have unchanged : c.toLower = c := dif_neg upper
    rw [unchanged] at lowered
    exact (summaryKind_chars c lowered).2.1

/-- Equal up to ASCII case, against a text in ASCII lower case. -/
theorem map_toLower_eq_iff {b : List Char} (lowered : ∀ d ∈ b, d.toLower = d) {a : List Char} :
    a.map Char.toLower = b ↔ a.length = b.length ∧ ∀ x y, (x, y) ∈ a.zip b → x.toLower = y.toLower := by
  induction a generalizing b with
  | nil => cases b <;> simp
  | cons x a ih =>
      cases b with
      | nil => simp
      | cons y b =>
          have rest : ∀ d ∈ b, d.toLower = d := fun d mem => lowered d (List.mem_cons_of_mem _ mem)
          have fixed : y.toLower = y := lowered y List.mem_cons_self
          simp only [List.map_cons, List.cons.injEq, ih rest, List.length_cons, List.zip_cons_cons,
            List.mem_cons, Prod.mk.injEq]
          constructor
          · rintro ⟨head, length, tail⟩
            refine ⟨by rw [length], ?_⟩
            rintro x' y' (⟨rfl, rfl⟩ | mem)
            · rw [head, fixed]
            · exact tail x' y' mem
          · rintro ⟨length, pairs⟩
            exact ⟨(pairs x y (Or.inl ⟨rfl, rfl⟩)).trans fixed, by omega,
              fun x' y' mem => pairs x' y' (Or.inr mem)⟩

/-- A kind lowers to the summaries' kind exactly when it is that kind up to ASCII case: no
character outside ASCII lowers onto its letters. -/
theorem lower_eq_summaryKind_iff (k : String) :
    lower k = summaryKind ↔ ItemRecord.equalsIgnoringAsciiCase k summaryKind = true := by
  have fixed : ∀ d ∈ summaryKind.toList, d.toLower = d := fun d mem => (summaryKind_chars d mem).2.2
  have ignoring : ItemRecord.equalsIgnoringAsciiCase k summaryKind = true ↔
      k.toList.map Char.toLower = summaryKind.toList := by
    rw [map_toLower_eq_iff fixed]
    simp [ItemRecord.equalsIgnoringAsciiCase, String.length_toList]
  rw [ignoring, ← String.toList_inj]
  constructor
  · intro lowered
    have ascii : ∀ c ∈ k.toList, c.toNat < 128 := by
      rw [lower, String.toList_ofList] at lowered
      exact ascii_of_lowerList_summaryKind [] k.toList fun d mem => lowered ▸ mem
    rw [← lower_toList_of_ascii ascii, lowered]
  · intro mapped
    have ascii : ∀ c ∈ k.toList, c.toNat < 128 := fun c mem =>
      ascii_of_toLower_summaryKind (mapped ▸ List.mem_map_of_mem mem)
    rw [lower_toList_of_ascii ascii, mapped]

/-! ### Reading a key back -/

theorem key_toList (x : FeedItem) :
    x.key.toList = (lower x.kind).toList ++ ':' :: x.signature.toList := by
  simp [FeedItem.key, String.toList_append]

/-- The key of an item whose kind holds no colon splits at its first colon into the lowered kind
and the signature. -/
theorem key_eq_iff {x y : FeedItem} (plainX : ':' ∉ x.kind.toList) (plainY : ':' ∉ y.kind.toList) :
    x.key = y.key ↔ lower x.kind = lower y.kind ∧ x.signature = y.signature := by
  constructor
  · intro same
    have lists := congrArg String.toList same
    rw [key_toList, key_toList] at lists
    obtain ⟨lowered, signed⟩ := append_cons_cancel
      (separator_not_mem_lower colon_mem_separators plainX)
      (separator_not_mem_lower colon_mem_separators plainY) lists
    exact ⟨String.toList_inj.mp lowered, String.toList_inj.mp signed⟩
  · rintro ⟨lowered, signed⟩
    rw [FeedItem.key, FeedItem.key, lowered, signed]

/-- Decoded items whose kinds lower alike are of one variant. -/
theorem isSummary_eq_of_lower_eq {x y : FeedItem} (decodedX : x.Decodable) (decodedY : y.Decodable)
    (same : lower x.kind = lower y.kind) : x.isSummary = y.isSummary := by
  rw [decodedX.variant, decodedY.variant, Bool.eq_iff_iff, ← lower_eq_summaryKind_iff,
    ← lower_eq_summaryKind_iff, same]

/-! ### What merges keep under a key -/

/-- A merge keeps only items it was given. -/
theorem MergeOutcome.mem_inputs {current incoming result : List FeedItem}
    (outcome : MergeOutcome current incoming result) {z : FeedItem} (kept : z ∈ result) :
    z ∈ current ++ incoming := by
  rcases (outcome.mem_iff z).mp kept with fresh | ⟨-, held⟩
  · exact List.mem_append_right _ (key_of_lastUnder fresh).2
  · exact List.mem_append_left _ (key_of_lastUnder held).2

/-- Among decoded items whose kinds hold no colon, what a merge keeps under a key is of the
variant and the lowered kind of every item it was given under that key. -/
theorem MergeOutcome.keeps_variant {current incoming result : List FeedItem}
    (outcome : MergeOutcome current incoming result)
    (plain : ∀ x ∈ current ++ incoming, x.Decodable ∧ ':' ∉ x.kind.toList) {x z : FeedItem}
    (given : x ∈ current ++ incoming) (kept : z ∈ result) (same : x.key = z.key) :
    x.isSummary = z.isSummary ∧ lower x.kind = lower z.kind := by
  obtain ⟨decodedX, plainX⟩ := plain x given
  obtain ⟨decodedZ, plainZ⟩ := plain z (outcome.mem_inputs kept)
  have lowered := ((key_eq_iff plainX plainZ).mp same).1
  exact ⟨isSummary_eq_of_lower_eq decodedX decodedZ lowered, lowered⟩

/-- For decoded items whose kinds hold no colon, the key identifies the lowered kind and the
signature, and with them the variant; so neither merge keeps under a key an item of another
variant or kind than those it was given under it: no observation replaces a summary. -/
theorem key_identifies_plain_kinds :
    (∀ x y : FeedItem, x.Decodable → y.Decodable → ':' ∉ x.kind.toList → ':' ∉ y.kind.toList →
      (x.key = y.key ↔ lower x.kind = lower y.kind ∧ x.signature = y.signature) ∧
        (x.key = y.key → x.isSummary = y.isSummary)) ∧
    ∀ current incoming : List FeedItem,
      (∀ x ∈ current ++ incoming, x.Decodable ∧ ':' ∉ x.kind.toList) →
      ∀ x ∈ current ++ incoming, ∀ z : FeedItem,
        z ∈ appendMerge current incoming ∨ z ∈ refreshMerge current incoming →
        x.key = z.key → x.isSummary = z.isSummary ∧ lower x.kind = lower z.kind := by
  refine ⟨fun x y decodedX decodedY plainX plainY => ⟨key_eq_iff plainX plainY, fun same =>
    isSummary_eq_of_lower_eq decodedX decodedY ((key_eq_iff plainX plainY).mp same).1⟩, ?_⟩
  rintro current incoming plain x given z (appended | refreshed) same
  · exact (appendMerge_outcome current incoming).keeps_variant plain given appended same
  · exact (refreshMerge_outcome current incoming).keeps_variant plain given refreshed same

open Json in
/-- Two summaries of one identifier whose kinds differ in case share a key and a variant. -/
theorem summary_kinds_in_any_case_share_key :
    let upper : FeedItem := .summary
      { core := { ids := { id := some (.number (.natural 3)) }, kind := "Session_Summary" } }
    let plain : FeedItem := .summary
      { core := { ids := { id := some (.number (.natural 3)) }, kind := "session_summary" } }
    decodeValue FeedItem.decoder
        (.object [("id", .number (.natural 3)), ("kind", .string "Session_Summary")]) = .ok upper ∧
      decodeValue FeedItem.decoder
        (.object [("id", .number (.natural 3)), ("kind", .string "session_summary")]) = .ok plain ∧
      upper.key = plain.key ∧ upper.isSummary = plain.isSummary := by
  intro upper plain
  have readUpper : decodeValue FeedItem.decoder
      (.object [("id", .number (.natural 3)), ("kind", .string "Session_Summary")]) = .ok upper := rfl
  have readPlain : decodeValue FeedItem.decoder
      (.object [("id", .number (.natural 3)), ("kind", .string "session_summary")]) = .ok plain := rfl
  have decodedUpper := decodable_of_decoder readUpper
  have decodedPlain := decodable_of_decoder readPlain
  -- both kinds name the summaries up to ASCII case, so both lower to it
  have lowered : lower upper.kind = lower plain.kind := by
    rw [(lower_eq_summaryKind_iff _).mpr decodedUpper.variant.symm,
      (lower_eq_summaryKind_iff _).mpr decodedPlain.variant.symm]
  have identified := key_identifies_plain_kinds.1 upper plain decodedUpper decodedPlain
    (show ':' ∉ "Session_Summary".toList by simp) (show ':' ∉ "session_summary".toList by simp)
  have keyed := identified.1.mpr ⟨lowered, rfl⟩
  exact ⟨readUpper, readPlain, keyed, identified.2 keyed⟩

open Json in
/-- A colon in a kind lets two decoded items share a key: the summary `a:b` and the observation
`b` of kind `session_summary:a` both key as `session_summary:a:b`, though their kinds lower
apart, and appending the observation to the summary leaves the observation alone. -/
theorem colon_kinds_share_key :
    let summary : FeedItem := .summary { core :=
      { ids := { id := some (.string "a:b") }, kind := "session_summary", title := "session recap" } }
    let note : FeedItem := .observation { core :=
      { ids := { id := some (.string "b") }, kind := "session_summary:a", title := "observation row" } }
    decodeValue FeedItem.decoder (.object [("id", .string "a:b"),
        ("kind", .string "session_summary"), ("title", .string "session recap")]) = .ok summary ∧
      decodeValue FeedItem.decoder (.object [("id", .string "b"),
        ("kind", .string "session_summary:a"), ("title", .string "observation row")]) = .ok note ∧
      summary.key = note.key ∧ lower summary.kind ≠ lower note.kind ∧
      summary.isSummary = true ∧ note.isSummary = false ∧ appendMerge [summary] [note] = [note] := by
  intro summary note
  have lowerSummary : lower summary.kind = "session_summary" :=
    @lower_eq_self "session_summary" (by simp)
  have lowerNote : lower note.kind = "session_summary:a" :=
    @lower_eq_self "session_summary:a" (by simp)
  have same : summary.key = note.key := by
    have signedSummary : summary.signature = "a:b" := rfl
    have signedNote : note.signature = "b" := rfl
    rw [FeedItem.key, FeedItem.key, lowerSummary, lowerNote, signedSummary, signedNote]
    simp
  refine ⟨rfl, rfl, same, by rw [lowerSummary, lowerNote]; simp, rfl, rfl, ?_⟩
  rw [appendMerge, unionByKey_eq]
  simp [lastVersions, firstKeys, lastUnder, same, sortNewestFirst, List.eraseDups_cons]

end Feed

end MemoryDashboard
