import MemoryDashboard.Feed.Summary
import MemoryDashboard.Proofs.Feed.Wire
import Mathlib.Data.String.Basic
import Mathlib.Data.List.Nodup

/-! # The sections of a structured summary

A structured summary is an object; each of its members may give one section, labelled by the
member's key and holding the value's text, trimmed, unless that text is empty or `null`
(`sectionOf`). Sections are built key by key: first the known keys the summary holds, in their
listed order, then all its other keys sorted (`sectionKeys`), each looked up in the summary.

Main statement: for an object with no key twice, as every object read from JSON is, the sections
are those of its members taken in section order (`SectionBefore`: known keys first in their listed
order, then the others ascending), one per member at most and nothing else
(`summary_sections_in_key_order`). Section order leaves no choice: it is a strict total order on
keys, so the members in it are a single list.
-/

namespace MemoryDashboard.Feed

/-- The order sections come in: the known keys in their listed order, then every other key in
ascending order. -/
def SectionBefore (a b : String) : Prop :=
  List.Sublist [a, b] summaryKeys ∨ (a ∈ summaryKeys ∧ b ∉ summaryKeys) ∨
    (a ∉ summaryKeys ∧ b ∉ summaryKeys ∧ a < b)

/-- The section a key holding a value shows: the value's text, trimmed, under the key's label;
none when that text is empty or `null`. -/
def sectionOf (key : String) (value : Json) : Option SummarySection :=
  let content := Text.trim (displayText value)
  if content = "" ∨ content = "null" then none else some { label := Text.titleLabel key, content }

theorem summaryKeys_nodup : summaryKeys.Nodup := by
  simp [summaryKeys]

/-- The keys sections are built for, in order: the known keys the summary holds, in their listed
order, then its other keys sorted. -/
def sectionKeys (m : Json.Members) : List String :=
  summaryKeys.filter (fun k => (m.lookup k).isSome) ++
    ((m.map Prod.fst).filter fun k => !summaryKeys.contains k).mergeSort fun a b => decide (a ≤ b)

theorem summarySections_eq (m : Json.Members) :
    summarySections m = (sectionKeys m).filterMap fun k => (m.lookup k).bind (sectionOf k) := by
  unfold summarySections sectionKeys
  apply List.filterMap_congr
  intro k _
  cases m.lookup k with
  | none => rfl
  | some v =>
      simp only [Option.elim_some, Option.bind_some, sectionOf]
      have blank : ∀ t : String, (t.isEmpty || t == "null") = true ↔ (t = "" ∨ t = "null") := by
        intro t
        simp [String.isEmpty_iff]
      simp only [blank]

theorem lookup_isSome_iff_mem_keys {m : Json.Members} {k : String} :
    (m.lookup k).isSome ↔ k ∈ m.map Prod.fst := by
  rw [List.lookup_isSome_iff, List.mem_map]
  simp only [beq_iff_eq]
  constructor <;> rintro ⟨p, member, same⟩ <;> exact ⟨p, member, same.symm⟩

theorem mem_sectionKeys {m : Json.Members} {k : String} :
    k ∈ sectionKeys m ↔ k ∈ m.map Prod.fst := by
  unfold sectionKeys
  rw [List.mem_append, List.mem_filter, List.mem_mergeSort, List.mem_filter, lookup_isSome_iff_mem_keys]
  by_cases known : k ∈ summaryKeys
  · simp [known]
  · simp [known]

theorem sectionKeys_nodup {m : Json.Members} (distinct : (m.map Prod.fst).Nodup) :
    (sectionKeys m).Nodup := by
  unfold sectionKeys
  refine List.nodup_append.mpr ⟨summaryKeys_nodup.filter _, ?_, ?_⟩
  · exact (List.mergeSort_perm _ _).nodup_iff.mpr (distinct.filter _)
  · intro a knownA b otherB same
    subst same
    rw [List.mem_filter] at knownA
    rw [List.mem_mergeSort, List.mem_filter] at otherB
    simp_all

theorem sectionKeys_pairwise {m : Json.Members} (distinct : (m.map Prod.fst).Nodup) :
    (sectionKeys m).Pairwise SectionBefore := by
  have nodup := sectionKeys_nodup distinct
  unfold sectionKeys at nodup ⊢
  refine List.pairwise_append.mpr ⟨?_, ?_, ?_⟩
  · -- the known keys keep their listed order
    refine List.pairwise_iff_forall_sublist.mpr fun listed => .inl ?_
    exact listed.trans List.filter_sublist
  · -- the other keys are sorted, and no key comes twice
    have sorted : (((m.map Prod.fst).filter fun k => !summaryKeys.contains k).mergeSort
        fun a b => decide (a ≤ b)).Pairwise fun a b => decide (a ≤ b) = true :=
      List.pairwise_mergeSort
        (fun a b c ab bc => by simp only [decide_eq_true_eq] at ab bc ⊢; exact le_trans ab bc)
        (fun a b => by simpa using le_total a b) _
    have apart := (List.nodup_append.mp nodup).2.1
    refine (sorted.and apart).imp_of_mem fun {a b} memA memB ⟨le, ne⟩ => .inr (.inr ⟨?_, ?_, ?_⟩)
    · simp_all
    · simp_all
    · exact lt_of_le_of_ne (of_decide_eq_true le) ne
  · intro a knownA b otherB
    rw [List.mem_filter] at knownA
    rw [List.mem_mergeSort, List.mem_filter] at otherB
    exact .inr (.inl ⟨knownA.1, by simp_all⟩)

/-- The members of a summary, in section order. -/
def sectionMembers (m : Json.Members) : Json.Members :=
  (sectionKeys m).map fun k => (k, (m.lookup k).getD .null)

theorem sectionMembers_keys (m : Json.Members) : (sectionMembers m).map Prod.fst = sectionKeys m := by
  simp only [sectionMembers, List.map_map, Function.comp_def, List.map_id']

theorem mem_sectionMembers {m : Json.Members} (distinct : (m.map Prod.fst).Nodup) {p : String × Json} :
    p ∈ sectionMembers m ↔ p ∈ m := by
  obtain ⟨k, v⟩ := p
  simp only [sectionMembers, List.mem_map, Prod.mk.injEq]
  constructor
  · rintro ⟨k, listed, rfl, rfl⟩
    obtain ⟨w, held⟩ : ∃ w, (k, w) ∈ m := by
      obtain ⟨q, member, same⟩ := List.mem_map.mp (mem_sectionKeys.mp listed)
      exact ⟨q.2, same ▸ member⟩
    have found : m.lookup k = some w := lookup_of_mem distinct held
    rw [found]
    exact held
  · intro held
    refine ⟨k, mem_sectionKeys.mpr (List.mem_map.mpr ⟨(k, v), held, rfl⟩), rfl, ?_⟩
    have found : m.lookup k = some v := lookup_of_mem distinct held
    rw [found]
    rfl

theorem sectionMembers_perm {m : Json.Members} (distinct : (m.map Prod.fst).Nodup) :
    (sectionMembers m).Perm m := by
  have ordered : (sectionMembers m).Nodup :=
    List.Nodup.of_map Prod.fst ((sectionMembers_keys m) ▸ sectionKeys_nodup distinct)
  exact (List.perm_ext_iff_of_nodup ordered (List.Nodup.of_map Prod.fst distinct)).mpr
    fun _ => mem_sectionMembers distinct

theorem summarySections_sectionMembers (m : Json.Members) :
    summarySections m = (sectionMembers m).filterMap fun p => sectionOf p.1 p.2 := by
  rw [summarySections_eq, sectionMembers, List.filterMap_map]
  apply List.filterMap_congr
  intro k listed
  obtain ⟨v, found⟩ := Option.isSome_iff_exists.mp
    (lookup_isSome_iff_mem_keys.mpr (mem_sectionKeys.mp listed))
  simp [found]

/-- A summary with no key twice shows one section per member whose text, trimmed, is neither
empty nor `null`, labelled by its key, and nothing else: the members are taken with the known keys
first in their listed order and every other key after them in ascending order. -/
theorem summary_sections_in_key_order (m : Json.Members) (distinct : (m.map Prod.fst).Nodup) :
    ∃ order : Json.Members, order.Perm m ∧ (order.map Prod.fst).Pairwise SectionBefore ∧
      summarySections m = order.filterMap fun p => sectionOf p.1 p.2 :=
  ⟨sectionMembers m, sectionMembers_perm distinct,
    (sectionMembers_keys m) ▸ sectionKeys_pairwise distinct, summarySections_sectionMembers m⟩

theorem preferred_order_sections :
    ([("notes", Json.str "  "), ("outcome", Json.str "done"), ("request", Json.str "do it"),
        ("zeta", Json.str "last")].map Prod.fst).Nodup ∧
      ∃ order : Json.Members, order.Perm [("notes", Json.str "  "), ("outcome", Json.str "done"),
          ("request", Json.str "do it"), ("zeta", Json.str "last")] ∧
        (order.map Prod.fst).Pairwise SectionBefore ∧
        summarySections [("notes", Json.str "  "), ("outcome", Json.str "done"),
            ("request", Json.str "do it"), ("zeta", Json.str "last")] =
          order.filterMap fun p => sectionOf p.1 p.2 :=
  have distinct : (["notes", "outcome", "request", "zeta"]).Nodup := by simp
  ⟨distinct, summary_sections_in_key_order _ distinct⟩

end MemoryDashboard.Feed
