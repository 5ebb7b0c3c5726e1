import MemoryDashboard.Sync.View
import Mathlib

/-! # The primary address and the address line

A peer's address line lists the texts of its addresses: every scalar counts by its text, empty
texts are left out, and a text is listed once, where it first occurs (`mem_uniqueAddresses`,
`head_uniqueAddresses`). The primary address is the first truthy entry, and only when that
entry is a string.

A primary address is always listed (`primaryAddress_listed`). When the addresses are strings
(or null), the two rules pick the same first address, and there is no primary address exactly
when nothing is listed (`primary_address_listed_first`). Other scalars split them: a number or
a boolean is listed by its text but is never primary, and a zero or `false` before a string is
listed first while the string is primary (`numeric_address_not_primary`).
-/

namespace MemoryDashboard.Sync

/-- One step of listing addresses: skip an empty or already listed text, else append it. -/
def listStep (acc : List String) (a : String) : List String :=
  if a.isEmpty || acc.contains a then acc else acc ++ [a]

theorem uniqueAddresses_eq (addresses : List Json) :
    uniqueAddresses addresses = (addresses.filterMap Json.scalarText?).foldl listStep [] := rfl

theorem listStep_of_skipped {acc : List String} {a : String} (skipped : a = "" ∨ a ∈ acc) :
    listStep acc a = acc := by
  rw [listStep, if_pos (by simpa [String.isEmpty_iff] using skipped)]

theorem listStep_of_kept {acc : List String} {a : String} (nonEmpty : a ≠ "") (fresh : a ∉ acc) :
    listStep acc a = acc ++ [a] := by
  rw [listStep, if_neg (by simpa [String.isEmpty_iff] using And.intro nonEmpty fresh)]

theorem mem_foldl_listStep {a : String} (texts acc : List String) :
    a ∈ texts.foldl listStep acc ↔ a ∈ acc ∨ (a ≠ "" ∧ a ∈ texts) := by
  induction texts generalizing acc with
  | nil => simp
  | cons t rest ih =>
    rw [List.foldl_cons, ih]
    by_cases skipped : t = "" ∨ t ∈ acc
    · -- a skipped text is empty or already listed, so nothing is lost by skipping it
      rw [listStep_of_skipped skipped]
      constructor
      · rintro (held | ⟨nonEmpty, later⟩)
        · exact .inl held
        · exact .inr ⟨nonEmpty, List.mem_cons_of_mem t later⟩
      · rintro (held | ⟨nonEmpty, here | ⟨_, later⟩⟩)
        · exact .inl held
        · rcases skipped with empty | listed
          · exact absurd empty nonEmpty
          · exact .inl listed
        · exact .inr ⟨nonEmpty, later⟩
    · rw [not_or] at skipped
      rw [listStep_of_kept skipped.1 skipped.2, List.mem_append, List.mem_singleton,
        List.mem_cons]
      constructor
      · rintro ((held | rfl) | ⟨nonEmpty, later⟩)
        · exact .inl held
        · exact .inr ⟨skipped.1, .inl rfl⟩
        · exact .inr ⟨nonEmpty, .inr later⟩
      · rintro (held | ⟨nonEmpty, rfl | later⟩)
        · exact .inl (.inl held)
        · exact .inl (.inr rfl)
        · exact .inr ⟨nonEmpty, later⟩

/-- A text is listed exactly when it is not empty and some address has it as its text. -/
theorem mem_uniqueAddresses {a : String} (addresses : List Json) :
    a ∈ uniqueAddresses addresses ↔ a ≠ "" ∧ ∃ j ∈ addresses, Json.scalarText? j = some a := by
  rw [uniqueAddresses_eq, mem_foldl_listStep, List.mem_filterMap]
  simp

/-- Listing only appends, so what is listed first stays first. -/
theorem foldl_listStep_head {acc : List String} (texts : List String) (held : acc ≠ []) :
    (texts.foldl listStep acc).head? = acc.head? := by
  induction texts generalizing acc with
  | nil => rfl
  | cons t rest ih =>
    rw [List.foldl_cons]
    by_cases skipped : t = "" ∨ t ∈ acc
    · rw [listStep_of_skipped skipped, ih held]
    · rw [not_or] at skipped
      rw [listStep_of_kept skipped.1 skipped.2, ih (by simp)]
      obtain ⟨first, others, rfl⟩ := List.exists_cons_of_ne_nil held
      rfl

/-- The first listed text is the first non-empty text of the addresses. -/
theorem head_uniqueAddresses (addresses : List Json) :
    (uniqueAddresses addresses).head? =
      (addresses.filterMap Json.scalarText?).find? (fun a => !a.isEmpty) := by
  rw [uniqueAddresses_eq]
  generalize addresses.filterMap Json.scalarText? = texts
  induction texts with
  | nil => rfl
  | cons t rest ih =>
    rw [List.foldl_cons]
    by_cases empty : t = ""
    · rw [listStep_of_skipped (.inl empty), ih]
      simp [empty]
    · rw [listStep_of_kept empty (by simp), foldl_listStep_head rest (by simp)]
      simp [empty]

/-- A primary address is a truthy string among the addresses. -/
theorem primaryAddress_eq_some {addresses : List Json} {a : String}
    (primary : primaryAddress addresses = some a) : a ≠ "" ∧ Json.string a ∈ addresses := by
  unfold primaryAddress at primary
  obtain ⟨j, found, text⟩ := Option.bind_eq_some_iff.1 primary
  cases j with
  | string s =>
    cases text
    have truthy := List.find?_some found
    exact ⟨by simpa [Json.isTruthy] using truthy, List.mem_of_find?_eq_some found⟩
  | null | bool _ | number _ | array _ | object _ => cases text

/-- A primary address is always one the address line lists. -/
theorem primaryAddress_listed {addresses : List Json} {a : String}
    (primary : primaryAddress addresses = some a) : a ∈ uniqueAddresses addresses := by
  obtain ⟨nonEmpty, mem⟩ := primaryAddress_eq_some primary
  exact (mem_uniqueAddresses addresses).2 ⟨nonEmpty, _, mem, rfl⟩

/-- An address given as a string or as `null`. -/
def IsTextOrNull : Json → Prop
  | .string _ => True
  | .null => True
  | _ => False

/-- Over strings and nulls, the first truthy entry is the first non-empty text. -/
theorem primaryAddress_of_texts {addresses : List Json} (texts : ∀ j ∈ addresses, IsTextOrNull j) :
    primaryAddress addresses =
      (addresses.filterMap Json.scalarText?).find? (fun a => !a.isEmpty) := by
  induction addresses with
  | nil => rfl
  | cons j rest ih =>
    have restTexts : ∀ k ∈ rest, IsTextOrNull k := fun k mem => texts k (.tail j mem)
    unfold primaryAddress at ih ⊢
    cases j with
    | null => simpa [Json.isTruthy, Json.scalarText?] using ih restTexts
    | string s =>
      by_cases empty : s.isEmpty
      · simpa [Json.isTruthy, Json.scalarText?, empty] using ih restTexts
      · simp [Json.isTruthy, Json.scalarText?, Json.asString?, empty]
    | bool _ | number _ | array _ | object _ => exact (texts _ (.head rest)).elim

/-- A primary address is always listed on the address line. When every address is a string or
`null`, the primary address is the first address listed, and there is none exactly when none
is listed. -/
theorem primary_address_listed_first (addresses : List Json) :
    (∀ a, primaryAddress addresses = some a → a ∈ uniqueAddresses addresses) ∧
      ((∀ j ∈ addresses, IsTextOrNull j) →
        primaryAddress addresses = (uniqueAddresses addresses).head? ∧
          (primaryAddress addresses = none ↔ uniqueAddresses addresses = [])) := by
  refine ⟨fun _ => primaryAddress_listed, fun texts => ?_⟩
  have first : primaryAddress addresses = (uniqueAddresses addresses).head? := by
    rw [primaryAddress_of_texts texts, head_uniqueAddresses]
  exact ⟨first, by rw [first, List.head?_eq_none_iff]⟩

/-- The address list of the primary-address test: a blank, a null and one address twice. -/
theorem test_addresses_primary_first :
    (∀ j ∈ [Json.str "", .null, .str "10.0.0.2:7337", .str "10.0.0.2:7337"], IsTextOrNull j) ∧
      primaryAddress [Json.str "", .null, .str "10.0.0.2:7337", .str "10.0.0.2:7337"] =
        (uniqueAddresses [Json.str "", .null, .str "10.0.0.2:7337", .str "10.0.0.2:7337"]).head? := by
  have texts : ∀ j ∈ [Json.str "", .null, .str "10.0.0.2:7337", .str "10.0.0.2:7337"],
      IsTextOrNull j := by
    simp [Json.str, IsTextOrNull]
  exact ⟨texts, ((primary_address_listed_first _).2 texts).1⟩

/-- An address given as a number is listed by its text, but there is no primary address. -/
theorem numeric_address_not_primary :
    primaryAddress [Json.nat 7337] = none ∧ uniqueAddresses [Json.nat 7337] = ["7337"] := by
  constructor
  · -- the number is truthy, and it is not a string
    decide
  · rfl

end MemoryDashboard.Sync
