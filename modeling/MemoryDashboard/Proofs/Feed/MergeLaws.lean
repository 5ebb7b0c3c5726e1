import MemoryDashboard.Proofs.Feed.LastWins

/-! # How the two merges relate

Appending a page and refreshing with it keep the same last version of every key and sort them
newest first, stably. They differ only in where a key that the held items and the page share
first stands: an append leaves it where the held item stood, a refresh moves it to where the page
has it. So the two merges hold the same items, and are the same list when no key is shared or no
two merged items have one time; two items stand in opposite orders in them only when they have
one time and one of them has a shared key (`merges_differ_only_in_shared_ties`).

Merging a page again right after merging it changes nothing, for either merge, and so reports no
new key (`appendMerge_again`, `refreshMerge_again`).

A stable newest-first sort sees a list only through its items of each time, in order
(`SameTies`, `sortNewestFirst_congr`). The rest is about last versions of batches: of a batch
without repeated keys (`lastVersions_of_nodup`), of two batches with no key in common
(`lastVersions_append_of_disjoint`), and of the items of some keys (`lastVersions_filter`).
-/

namespace MemoryDashboard.Feed

/-! ### What a stable sort sees of a list -/

/-- Two lists hold the same items of every time, in the same order. -/
def SameTies (first second : List FeedItem) : Prop :=
  ∀ t : Int, first.filter (·.createdAtMillis == t) = second.filter (·.createdAtMillis == t)

namespace SameTies

theorem refl (items : List FeedItem) : SameTies items items := fun _ => rfl

theorem symm {first second : List FeedItem} (same : SameTies first second) :
    SameTies second first :=
  fun t => (same t).symm

theorem trans {first second third : List FeedItem} (one : SameTies first second)
    (two : SameTies second third) : SameTies first third :=
  fun t => (one t).trans (two t)

theorem append {first second first' second' : List FeedItem} (front : SameTies first first')
    (back : SameTies second second') : SameTies (first ++ second) (first' ++ second') := fun t => by
  rw [List.filter_append, List.filter_append, front t, back t]

/-- Keeping the items that pass a test keeps the order of the items of each time. -/
theorem filter {first second : List FeedItem} (same : SameTies first second)
    (p : FeedItem → Bool) : SameTies (first.filter p) (second.filter p) := fun t => by
  rw [List.filter_comm, same t, List.filter_comm]

end SameTies

theorem sortNewestFirst_sameTies (items : List FeedItem) :
    SameTies (sortNewestFirst items) items :=
  (sortNewestFirst_isNewestFirstOf items).ties_in_order

/-- The feed's sort sees a list only through its items of each time, in order. -/
theorem sortNewestFirst_congr {first second : List FeedItem} (same : SameTies first second) :
    sortNewestFirst first = sortNewestFirst second :=
  eq_of_ties_in_order (sortNewestFirst_pairwise first) (sortNewestFirst_pairwise second)
    ((sortNewestFirst_sameTies first).trans (same.trans (sortNewestFirst_sameTies second).symm))

/-- A list already newest first is its own sort. -/
theorem sortNewestFirst_of_pairwise {items : List FeedItem} (sorted : items.Pairwise NewestFirst) :
    sortNewestFirst items = items :=
  List.mergeSort_of_pairwise (sorted.imp fun newer => by simpa [NewestFirst] using newer)

/-- Keeping the items that pass a test commutes with the sort. -/
theorem sortNewestFirst_filter (items : List FeedItem) (p : FeedItem → Bool) :
    (sortNewestFirst items).filter p = sortNewestFirst (items.filter p) :=
  calc (sortNewestFirst items).filter p
      = sortNewestFirst ((sortNewestFirst items).filter p) :=
        (sortNewestFirst_of_pairwise
          ((sortNewestFirst_pairwise items).sublist List.filter_sublist)).symm
    _ = sortNewestFirst (items.filter p) :=
        sortNewestFirst_congr ((sortNewestFirst_sameTies items).filter p)

/-- Two newest-first lists holding the same items, no two of one time, are equal. -/
theorem eq_of_perm_of_times_nodup {first second : List FeedItem}
    (firstSorted : first.Pairwise NewestFirst) (secondSorted : second.Pairwise NewestFirst)
    (perm : first.Perm second) (distinct : (first.map FeedItem.createdAtMillis).Nodup) :
    first = second := by
  refine perm.eq_of_pairwise (fun a b inFirst inSecond newer older => ?_) firstSorted secondSorted
  have sameTime : a.createdAtMillis = b.createdAtMillis :=
    le_antisymm (show a.createdAtMillis ≤ b.createdAtMillis from older) newer
  exact List.inj_on_of_nodup_map distinct inFirst (perm.symm.subset inSecond) sameTime

/-- In a list without repeats two items stand in one order only. -/
theorem not_sublist_swap {α : Type} {a b : α} :
    ∀ {l : List α}, l.Nodup → [a, b].Sublist l → ¬ [b, a].Sublist l
  | [], _, ab, _ => by simp at ab
  | x :: l, distinct, ab, ba => by
      obtain ⟨fresh, rest⟩ := List.nodup_cons.mp distinct
      -- each pair either lies in the tail or starts at the head `x`
      rcases List.sublist_cons_iff.mp ab with abRest | ⟨r, abHead, bRest⟩
      · rcases List.sublist_cons_iff.mp ba with baRest | ⟨r', baHead, -⟩
        · exact not_sublist_swap rest abRest baRest
        · obtain ⟨rfl, -⟩ := List.cons.inj baHead
          exact fresh (abRest.subset (List.mem_cons_of_mem _ List.mem_cons_self))
      · obtain ⟨rfl, rfl⟩ := List.cons.inj abHead
        rcases List.sublist_cons_iff.mp ba with baRest | ⟨r', baHead, aRest⟩
        · exact fresh (baRest.subset (List.mem_cons_of_mem _ List.mem_cons_self))
        · obtain ⟨same, rfl⟩ := List.cons.inj baHead
          exact fresh (same ▸ bRest.subset List.mem_cons_self)

/-! ### Last versions of batches -/

theorem mem_of_mem_lastVersions {items : List FeedItem} {x : FeedItem}
    (member : x ∈ lastVersions items) : x ∈ items :=
  (key_of_lastUnder (mem_lastVersions.mp member)).2

private theorem eraseDups_of_nodup {l : List String} (distinct : l.Nodup) : l.eraseDups = l := by
  induction l with
  | nil => rfl
  | cons k rest ih =>
      obtain ⟨fresh, restDistinct⟩ := List.nodup_cons.mp distinct
      have kept : rest.filter (fun j => !j == k) = rest :=
        List.filter_eq_self.mpr fun j member => by
          simpa using fun same : j = k => fresh (same ▸ member)
      rw [List.eraseDups_cons, kept, ih restDistinct]

theorem firstKeys_of_nodup {items : List FeedItem} (distinct : (items.map FeedItem.key).Nodup) :
    firstKeys items = items.map FeedItem.key :=
  eraseDups_of_nodup distinct

/-- A batch whose keys all stand earlier adds no key to the keys in order of first occurrence. -/
theorem firstKeys_append_of_subset {front back : List FeedItem}
    (known : ∀ k ∈ back.map FeedItem.key, k ∈ front.map FeedItem.key) :
    firstKeys (front ++ back) = firstKeys front := by
  have noneLeft : (back.map FeedItem.key).removeAll (front.map FeedItem.key) = [] :=
    List.filter_eq_nil_iff.mpr fun k member => by simpa using known k member
  rw [firstKeys, List.map_append, List.eraseDups_append, noneLeft, List.eraseDups_nil,
    List.append_nil, firstKeys]

theorem firstKeys_append_of_disjoint {front back : List FeedItem}
    (apart : ∀ k ∈ back.map FeedItem.key, k ∉ front.map FeedItem.key) :
    firstKeys (front ++ back) = firstKeys front ++ firstKeys back := by
  have allLeft : (back.map FeedItem.key).removeAll (front.map FeedItem.key) = back.map FeedItem.key :=
    List.filter_eq_self.mpr fun k member => by simpa using apart k member
  rw [firstKeys, List.map_append, List.eraseDups_append, allLeft, firstKeys, firstKeys]

/-- Keeping the items of some keys keeps those keys in order of first occurrence. -/
theorem firstKeys_filter (items : List FeedItem) (p : String → Bool) :
    firstKeys (items.filter (p ·.key)) = (firstKeys items).filter p := by
  induction items using List.reverseRecOn with
  | nil => rfl
  | append_singleton items x ih =>
      have known : x.key ∈ (items.filter (p ·.key)).map FeedItem.key ↔
          p x.key = true ∧ x.key ∈ items.map FeedItem.key := by
        simp only [List.mem_map, List.mem_filter]
        constructor
        · rintro ⟨y, ⟨member, pass⟩, same⟩
          exact ⟨same ▸ pass, y, member, same⟩
        · rintro ⟨pass, y, member, same⟩
          exact ⟨y, ⟨member, same ▸ pass⟩, same⟩
      rw [List.filter_append, List.filter_singleton, firstKeys_append_singleton]
      by_cases pass : p x.key = true
      · rw [pass, cond_true, firstKeys_append_singleton]
        by_cases seen : x.key ∈ items.map FeedItem.key
        · rw [if_pos (known.mpr ⟨pass, seen⟩), if_pos seen, ih]
        · rw [if_neg fun kept => seen (known.mp kept).2, if_neg seen, ih, List.filter_append]
          simp [pass]
      · rw [Bool.not_eq_true] at pass
        rw [pass, cond_false, List.append_nil, ih]
        split <;> simp [List.filter_append, pass]

theorem exists_lastUnder {items : List FeedItem} {k : String} (held : k ∈ items.map FeedItem.key) :
    ∃ x, lastUnder items k = some x :=
  Option.ne_none_iff_exists'.mp (mt lastUnder_eq_none_iff.mp (not_not.mpr held))

/-- In a list holding each key once, an item is the last of its key. -/
theorem lastUnder_of_nodup {items : List FeedItem} (distinct : (items.map FeedItem.key).Nodup)
    {x : FeedItem} (member : x ∈ items) : lastUnder items x.key = some x := by
  obtain ⟨y, last⟩ := exists_lastUnder (List.mem_map_of_mem member)
  obtain ⟨sameKey, inItems⟩ := key_of_lastUnder last
  rw [last, List.inj_on_of_nodup_map distinct inItems member sameKey]

/-- A list holding each key once, followed by a batch whose keys it holds and whose last versions
it already carries, has that list as its last versions. -/
theorem lastVersions_append_settled {held batch : List FeedItem}
    (distinct : (held.map FeedItem.key).Nodup)
    (known : ∀ k ∈ batch.map FeedItem.key, k ∈ held.map FeedItem.key)
    (carried : ∀ x ∈ held, x.key ∈ batch.map FeedItem.key → lastUnder batch x.key = some x) :
    lastVersions (held ++ batch) = held := by
  rw [lastVersions, firstKeys_append_of_subset known, firstKeys_of_nodup distinct,
    List.filterMap_map]
  conv_rhs => rw [← List.filterMap_some (l := held)]
  apply List.filterMap_congr
  intro x member
  rw [Function.comp_apply, lastUnder_append]
  by_cases inBatch : x.key ∈ batch.map FeedItem.key
  · rw [carried x member inBatch, Option.some_or]
  · rw [lastUnder_eq_none_iff.mpr inBatch, lastUnder_of_nodup distinct member, Option.none_or]

/-- A list holding each key once is its own last versions. -/
theorem lastVersions_of_nodup {items : List FeedItem} (distinct : (items.map FeedItem.key).Nodup) :
    lastVersions items = items := by
  simpa using @lastVersions_append_settled items [] distinct (by simp) (by simp)

/-- Two batches with no key in common keep their last versions apart, in their order. -/
theorem lastVersions_append_of_disjoint {front back : List FeedItem}
    (apart : ∀ k ∈ back.map FeedItem.key, k ∉ front.map FeedItem.key) :
    lastVersions (front ++ back) = lastVersions front ++ lastVersions back := by
  rw [lastVersions, firstKeys_append_of_disjoint apart, List.filterMap_append, lastVersions,
    lastVersions]
  congr 1
  · apply List.filterMap_congr
    intro k member
    have notBack : k ∉ back.map FeedItem.key := fun inBack => apart k inBack (mem_firstKeys.mp member)
    rw [lastUnder_append, lastUnder_eq_none_iff.mpr notBack, Option.none_or]
  · apply List.filterMap_congr
    intro k member
    obtain ⟨x, last⟩ := exists_lastUnder (mem_firstKeys.mp member)
    rw [lastUnder_append, last, Option.some_or]

/-- The last item under a key carries that key, so testing it by its key is testing the key. -/
theorem filter_lastUnder (items : List FeedItem) (k : String) (p : String → Bool) :
    (lastUnder items k).filter (p ·.key) = if p k then lastUnder items k else none := by
  cases last : lastUnder items k with
  | none => split <;> rfl
  | some x => rw [Option.filter_some, (key_of_lastUnder last).1]

/-- The last versions of the items of some keys are the last versions of those keys. -/
theorem lastVersions_filter (items : List FeedItem) (p : String → Bool) :
    lastVersions (items.filter (p ·.key)) = (lastVersions items).filter (p ·.key) := by
  have lastKept : ∀ k, p k = true → lastUnder (items.filter (p ·.key)) k = lastUnder items k := by
    intro k pass
    simp only [lastUnder, List.filter_filter]
    congr 1
    apply List.filter_congr
    intro x _
    by_cases same : x.key = k
    · simp [same, pass]
    · simp [same]
  rw [lastVersions, firstKeys_filter, List.filterMap_filter, lastVersions, List.filter_filterMap]
  apply List.filterMap_congr
  intro k _
  rw [filter_lastUnder]
  by_cases pass : p k = true
  · rw [if_pos pass, if_pos pass, lastKept k pass]
  · rw [if_neg pass, if_neg pass]

theorem appendMerge_eq (held incoming : List FeedItem) :
    appendMerge held incoming = sortNewestFirst (lastVersions (held ++ incoming)) :=
  unionByKey_eq held incoming

theorem refreshMerge_eq (held firstPage : List FeedItem) :
    refreshMerge held firstPage = sortNewestFirst (lastVersions
      (held.filter (fun x => x.key ∉ firstPage.map FeedItem.key) ++ firstPage)) := by
  rw [refreshMerge_eq_unionByKey, unionByKey_eq]

/-! ### Appending against refreshing -/

/-- Whether the held items and the page both hold a key. -/
def sharedKey (current incoming : List FeedItem) (k : String) : Bool :=
  decide (k ∈ current.map FeedItem.key ∧ k ∈ incoming.map FeedItem.key)

/-- Of the held items, those whose key the page lacks are those whose key is not shared. -/
theorem filter_unshared_kept (current incoming : List FeedItem) :
    (current.filter fun x => x.key ∉ incoming.map FeedItem.key).filter
        (fun x => !sharedKey current incoming x.key) =
      current.filter fun x => !sharedKey current incoming x.key := by
  rw [List.filter_filter]
  apply List.filter_congr
  intro x member
  have held : x.key ∈ current.map FeedItem.key := List.mem_map_of_mem member
  by_cases onPage : x.key ∈ incoming.map FeedItem.key
  · simp [sharedKey, held, onPage]
  · simp [sharedKey, onPage]

/-- The two merges agree on the items whose key only one side holds. -/
theorem merges_agree_off_shared_keys (current incoming : List FeedItem) :
    (appendMerge current incoming).filter (fun x => !sharedKey current incoming x.key) =
      (refreshMerge current incoming).filter (fun x => !sharedKey current incoming x.key) := by
  rw [appendMerge_eq, refreshMerge_eq, sortNewestFirst_filter, sortNewestFirst_filter,
    ← lastVersions_filter _ (fun k => !sharedKey current incoming k),
    ← lastVersions_filter _ (fun k => !sharedKey current incoming k), List.filter_append,
    List.filter_append, filter_unshared_kept]

/-- Both merges hold the same items. -/
theorem appendMerge_perm_refreshMerge (current incoming : List FeedItem) :
    (appendMerge current incoming).Perm (refreshMerge current incoming) := by
  rw [List.perm_ext_iff_of_nodup (List.Nodup.of_map _ (appendMerge_keys_nodup current incoming))
    (List.Nodup.of_map _ (refreshMerge_keys_nodup current incoming))]
  intro x
  rw [(appendMerge_outcome current incoming).mem_iff, (refreshMerge_outcome current incoming).mem_iff]

/-- With no key shared, a refresh drops nothing before the union, so it is an append. -/
theorem refreshMerge_eq_appendMerge_of_disjoint {current incoming : List FeedItem}
    (apart : ∀ k ∈ current.map FeedItem.key, k ∉ incoming.map FeedItem.key) :
    refreshMerge current incoming = appendMerge current incoming := by
  have kept : current.filter (fun x => x.key ∉ incoming.map FeedItem.key) = current :=
    List.filter_eq_self.mpr fun x member => by
      simpa using apart x.key (List.mem_map_of_mem member)
  rw [refreshMerge_eq, kept, appendMerge_eq]

/-- Two items stand in opposite orders in the two merges only when they have one time and one of
them has a key that both the held items and the page hold. -/
theorem swapped_only_in_shared_ties {current incoming : List FeedItem} {a b : FeedItem}
    (ab : [a, b].Sublist (appendMerge current incoming))
    (ba : [b, a].Sublist (refreshMerge current incoming)) :
    a.createdAtMillis = b.createdAtMillis ∧
      ((a.key ∈ current.map FeedItem.key ∧ a.key ∈ incoming.map FeedItem.key) ∨
        (b.key ∈ current.map FeedItem.key ∧ b.key ∈ incoming.map FeedItem.key)) := by
  -- each merge is newest first, so opposite orders force one time
  have older : NewestFirst a b := List.pairwise_pair.mp ((appendMerge_pairwise _ _).sublist ab)
  have newer : NewestFirst b a := List.pairwise_pair.mp ((refreshMerge_pairwise _ _).sublist ba)
  refine ⟨le_antisymm (show a.createdAtMillis ≤ b.createdAtMillis from newer) older, ?_⟩
  -- off the shared keys the two merges agree, and they hold each item once
  by_contra unshared
  simp only [not_or] at unshared
  let offShared : FeedItem → Bool := fun x => !sharedKey current incoming x.key
  have aOff : sharedKey current incoming a.key = false := decide_eq_false unshared.1
  have bOff : sharedKey current incoming b.key = false := decide_eq_false unshared.2
  have kept : [a, b].filter offShared = [a, b] := by simp [offShared, aOff, bOff]
  have keptSwap : [b, a].filter offShared = [b, a] := by simp [offShared, aOff, bOff]
  have abKept := ab.filter offShared
  have baKept := ba.filter offShared
  rw [kept, merges_agree_off_shared_keys] at abKept
  rw [keptSwap] at baKept
  have distinct : ((refreshMerge current incoming).filter offShared).Nodup :=
    (List.Nodup.of_map _ (refreshMerge_keys_nodup current incoming)).filter _
  exact not_sublist_swap distinct abKept baKept

/-- Appending a page and refreshing with it hold the same items; they are the same list when the
held items and the page share no key, or when no two merged items have one time; and two items
stand in opposite orders in the two only when they have one time and one of them has a key that
both the held items and the page hold. -/
theorem merges_differ_only_in_shared_ties (current incoming : List FeedItem) :
    (appendMerge current incoming).Perm (refreshMerge current incoming) ∧
      ((∀ k ∈ current.map FeedItem.key, k ∉ incoming.map FeedItem.key) ∨
          ((appendMerge current incoming).map FeedItem.createdAtMillis).Nodup →
        appendMerge current incoming = refreshMerge current incoming) ∧
      ∀ a b, [a, b].Sublist (appendMerge current incoming) →
        [b, a].Sublist (refreshMerge current incoming) →
        a.createdAtMillis = b.createdAtMillis ∧
          ((a.key ∈ current.map FeedItem.key ∧ a.key ∈ incoming.map FeedItem.key) ∨
            (b.key ∈ current.map FeedItem.key ∧ b.key ∈ incoming.map FeedItem.key)) := by
  have perm := appendMerge_perm_refreshMerge current incoming
  refine ⟨perm, ?_, fun a b ab ba => swapped_only_in_shared_ties ab ba⟩
  rintro (apart | distinct)
  · exact (refreshMerge_eq_appendMerge_of_disjoint apart).symm
  · exact eq_of_perm_of_times_nodup (appendMerge_pairwise current incoming)
      (refreshMerge_pairwise current incoming) perm distinct

/-! ### Merging a page again -/

/-- A list that is already an append of a page is its own append of that page again. -/
theorem appendMerge_again (current batch : List FeedItem) :
    appendMerge (appendMerge current batch) batch = appendMerge current batch := by
  have outcome := appendMerge_outcome current batch
  -- the merge already holds every key of the page, with the page's last version
  have settled : lastVersions (appendMerge current batch ++ batch) = appendMerge current batch :=
    lastVersions_append_settled outcome.keys_nodup
      (fun k member => (outcome.mem_keys k).mpr (.inr member))
      (fun x member inBatch =>
        ((outcome.mem_iff x).mp member).resolve_right fun ⟨absent, _⟩ => absent inBatch)
  rw [appendMerge_eq (appendMerge current batch) batch, settled]
  exact sortNewestFirst_of_pairwise outcome.newest_first

/-- The items kept for holding no key of a page hold none of its keys. -/
theorem keys_apart_of_filter (items batch : List FeedItem) :
    ∀ k ∈ batch.map FeedItem.key,
      k ∉ (items.filter fun x => x.key ∉ batch.map FeedItem.key).map FeedItem.key := by
  intro k onPage held
  obtain ⟨x, member, rfl⟩ := List.mem_map.mp held
  have absent : x.key ∉ batch.map FeedItem.key := by simpa using (List.mem_filter.mp member).2
  exact absent onPage

/-- A list that is already a refresh with a page is its own refresh with that page again. -/
theorem refreshMerge_again (current batch : List FeedItem) :
    refreshMerge (refreshMerge current batch) batch = refreshMerge current batch := by
  let kept := current.filter fun x => x.key ∉ batch.map FeedItem.key
  let merged := refreshMerge current batch
  let keptAgain := merged.filter fun x => x.key ∉ batch.map FeedItem.key
  have keptApart : ∀ k ∈ batch.map FeedItem.key, k ∉ kept.map FeedItem.key :=
    keys_apart_of_filter current batch
  have againApart : ∀ k ∈ batch.map FeedItem.key, k ∉ keptAgain.map FeedItem.key :=
    keys_apart_of_filter merged batch
  have mergedEq : merged = sortNewestFirst (lastVersions kept ++ lastVersions batch) := by
    show refreshMerge current batch = _
    rw [refreshMerge_eq, lastVersions_append_of_disjoint keptApart]
  -- what the second refresh keeps of the first's result has the ties of what the first kept
  have ties : SameTies keptAgain (lastVersions kept) := by
    have sorted := (sortNewestFirst_sameTies (lastVersions kept ++ lastVersions batch)).filter
      (fun x => x.key ∉ batch.map FeedItem.key)
    have keepsKept : (lastVersions kept).filter (fun x => x.key ∉ batch.map FeedItem.key) =
        lastVersions kept :=
      List.filter_eq_self.mpr fun x member => by
        simpa using (List.mem_filter.mp (mem_of_mem_lastVersions member)).2
    have dropsPage : (lastVersions batch).filter (fun x => x.key ∉ batch.map FeedItem.key) = [] :=
      List.filter_eq_nil_iff.mpr fun x member => by
        simpa using List.mem_map_of_mem (mem_of_mem_lastVersions member)
    rwa [← mergedEq, List.filter_append, keepsKept, dropsPage, List.append_nil] at sorted
  have keptAgainDistinct : (keptAgain.map FeedItem.key).Nodup :=
    (refreshMerge_keys_nodup current batch).sublist (List.filter_sublist.map _)
  calc refreshMerge merged batch
      = sortNewestFirst (lastVersions (keptAgain ++ batch)) := refreshMerge_eq merged batch
    _ = sortNewestFirst (keptAgain ++ lastVersions batch) := by
        rw [lastVersions_append_of_disjoint againApart, lastVersions_of_nodup keptAgainDistinct]
    _ = sortNewestFirst (lastVersions kept ++ lastVersions batch) :=
        sortNewestFirst_congr (ties.append (.refl _))
    _ = merged := mergedEq.symm

/-- A merge that brings in only held keys reports no new key. -/
theorem newKeys_self (items : List FeedItem) : newKeys items items = [] :=
  List.eq_nil_iff_forall_not_mem.mpr fun k member =>
    ((mem_newKeys items items k).mp member).2 ((mem_newKeys items items k).mp member).1

end MemoryDashboard.Feed
